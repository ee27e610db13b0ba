/-!
# Faults of markup

What can be wrong with markup, from the splitting into pieces down to a single reference. Positions
count bytes. The `message` functions hold all wordings.
-/

namespace XslLowering.Markup

/-- Faults of the markup as a sequence of pieces. -/
inductive Fault where
  | invalidBang
  | unclosedInstruction
  | unclosedDeclaration
  | unclosedComment
  | unclosedDoctype
  | unclosedCData
  | unclosedTag
  | unclosedSingleQuoted
  | unclosedDoubleQuoted
  | missingDoctypeName
  | unmatchedEnd (name : String)
  | mismatchedEnd (expected found : String)
  | unclosedReference
deriving DecidableEq

def Fault.message : Fault → String
  | .invalidBang => "syntax error: unknown or missed symbol in markup"
  | .unclosedInstruction =>
    "syntax error: processing instruction not closed: `?>` not found before end of input"
  | .unclosedDeclaration =>
    "syntax error: XML declaration not closed: `?>` not found before end of input"
  | .unclosedComment => "syntax error: comment not closed: `-->` not found before end of input"
  | .unclosedDoctype => "syntax error: DOCTYPE not closed: `>` not found before end of input"
  | .unclosedCData => "syntax error: CDATA not closed: `]]>` not found before end of input"
  | .unclosedTag => "syntax error: tag not closed: `>` not found before end of input"
  | .unclosedSingleQuoted =>
    "syntax error: attribute value not closed: `'` not found before end of input"
  | .unclosedDoubleQuoted =>
    "syntax error: attribute value not closed: `\x22` not found before end of input"
  | .missingDoctypeName =>
    "ill-formed document: `<!DOCTYPE>` declaration does not contain a name of a document type"
  | .unmatchedEnd name =>
    s!"ill-formed document: close tag `</{name}>` does not match any open tag"
  | .mismatchedEnd expected found =>
    s!"ill-formed document: expected `</{expected}>`, but `</{found}>` was found"
  | .unclosedReference =>
    "ill-formed document: entity or character reference not closed: `;` not found before end of input"

/-- Faults of the attributes of a tag. Positions are counted from the start of the tag's name. -/
inductive AttributeFault where
  | expectedEq (position : Nat)
  | expectedValue (position : Nat)
  | unquotedValue (position : Nat)
  | expectedQuote (position : Nat) (quote : Char)
  | duplicated (position previous : Nat)
deriving DecidableEq

def AttributeFault.message : AttributeFault → String
  | .expectedEq p => s!"position {p}: attribute key must be directly followed by `=` or space"
  | .expectedValue p => s!"position {p}: `=` must be followed by an attribute value"
  | .unquotedValue p => s!"position {p}: attribute value must be enclosed in `\x22` or `'`"
  | .expectedQuote p quote => s!"position {p}: missing closing quote `{quote}` in attribute value"
  | .duplicated p previous =>
    s!"position {p}: duplicated attribute, previous declaration at position {previous}"

/-- Faults of a character written by its number. -/
inductive CharRefFault where
  | unexpectedSign
  | emptyNumber
  | invalidDigit
  | numberTooLarge
  | invalidCodepoint (code : Nat)
  | nullCharacter
deriving DecidableEq

def CharRefFault.message : CharRefFault → String
  | .unexpectedSign => "unexpected number sign"
  | .emptyNumber => "cannot parse integer from empty string"
  | .invalidDigit => "invalid digit found in string"
  | .numberTooLarge => "number too large to fit in target type"
  | .invalidCodepoint code => s!"`{code}` is not a valid codepoint"
  | .nullCharacter => "0x0 character is not permitted in XML"

/-- Faults of the references in a value. -/
inductive EscapeFault where
  | unrecognized (start stop : Nat) (name : String)
  | unterminated (start stop : Nat)
  | charRef (fault : CharRefFault)
deriving DecidableEq

def EscapeFault.message : EscapeFault → String
  | .unrecognized start stop name => s!"at {start}..{stop}: unrecognized entity `{name}`"
  | .unterminated start stop =>
    s!"Error while escaping character at range {start}..{stop}: Cannot find ';' after '&'"
  | .charRef fault => s!"invalid character reference: {fault.message}"

end XslLowering.Markup
