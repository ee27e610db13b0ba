import XslLowering.Attempt
import XslLowering.Dictionary
import XslLowering.Text.Quoted

/-!
# Caches

A cache keeps a text for each key. `Cache.fetch` gives the text for a key and computes it if there is
none. The computation may use the cache itself; a text that it has put under the same key stays. A
computation that fails leaves nothing.
-/

namespace XslLowering

/-- The texts that are kept, by their keys. -/
structure Cache where
  entries : Dictionary String

namespace Cache

variable {σ ε : Type}

def empty : Cache := ⟨∅⟩

def size (c : Cache) : Nat := c.entries.size

def get? (c : Cache) (key : String) : Option String := c.entries.get? key

/-- Keeps a text under a key that has none. -/
def store (c : Cache) (key value : String) : Cache := ⟨c.entries.insertIfNew key value⟩

/-- Keeps a computed text and gives what is kept under the key then. -/
def keep (key value : String) : Edit (σ × Cache) ε String := do
  Edit.modify fun (s, c) => (s, c.store key value)
  let (_, c) ← Edit.get
  return (c.get? key).getD value

/-- The text for a key, computed if it is not there. -/
def fetch (key : String) (compute : Edit (σ × Cache) ε String) : Edit (σ × Cache) ε String := do
  let (_, c) ← Edit.get
  match c.get? key with
  | some value =>
    Edit.note .debug s!"Cache hit for '{key}'"
    return value
  | none =>
    Edit.note .debug s!"Cache miss for '{key}'"
    let value ← compute
    keep key value

def describe (c : Cache) : String :=
  let entry (e : String × String) : String := Text.quoted e.1 ++ ": " ++ Text.quoted e.2
  "MemoryCache \x7b entries: RwLock \x7b data: \x7b" ++
    ", ".intercalate (c.entries.entries.map entry) ++ "\x7d, poisoned: false, .. \x7d \x7d"

end Cache

end XslLowering
