import XslLowering.Pattern.Basic

/-!
# Programs that match patterns

A `Node` is written out as a `Program`, a list of instructions in which a choice prefers its first
way. `Program.search` finds the leftmost match, and of those that start there the preferred one. It
runs all ways through the program side by side, one character at a time, in the order of preference;
of two ways that are at the same instruction only the preferred one is followed, so the time is at
most the length of the text times the length of the program.
-/

namespace XslLowering.Pattern

open Text

/-- One instruction; `next` is the number of the instruction to go on with. -/
inductive Instruction where
  /-- Takes one character of the set. -/
  | take (s : CharSet) (next : Nat)
  | choose (preferred other : Nat)
  /-- Remembers the place. -/
  | mark (slot : Nat) (next : Nat)
  | check (l : Look) (next : Nat)
  /-- The text up to here matches. -/
  | accept

abbrev Program := Array Instruction

/-! ## Writing programs -/

/-- Writes instructions that go on with the instruction `next`, after those already written. Gives
the instruction to start with. -/
abbrev Emitter := Nat → Program → Nat × Program

/-- Writes one instruction. -/
def emitOne (instruction : Nat → Instruction) : Emitter := fun next program =>
  (program.size, program.push (instruction next))

def choice (greedy : Bool) (enter leave : Nat) : Instruction :=
  if greedy then .choose enter leave else .choose leave enter

/-- As often as possible, at least once. -/
def emitLoop (greedy : Bool) (body : Emitter) : Emitter := fun next program =>
  let again := program.size
  let (start, program) := body again (program.push .accept)
  (start, program.setIfInBounds again (choice greedy start next))

/-- Not at all or any number of times. A body that may match nothing is entered at most once for
each place, so it is run as an optional loop. -/
def emitStar (greedy consumes : Bool) (body : Emitter) : Emitter := fun next program =>
  if consumes then
    let again := program.size
    let (start, program) := body again (program.push .accept)
    (again, program.setIfInBounds again (choice greedy start next))
  else
    let (start, program) := emitLoop greedy body next program
    (program.size, program.push (choice greedy start next))

/-- A given number of times. -/
def emitTimes (body : Emitter) : Nat → Emitter
  | 0, next, program => (next, program)
  | count + 1, next, program =>
    let (next, program) := body next program
    emitTimes body count next program

/-- Up to a given number of times before going on with `next`, with the same way out before each
time. -/
def emitUpTo (greedy : Bool) (body : Emitter) (leave : Nat) : Nat → Emitter
  | 0, next, program => (next, program)
  | count + 1, next, program =>
    let (start, program) := body next program
    emitUpTo greedy body leave count program.size (program.push (choice greedy start leave))

def emit : Node → Emitter
  | .empty => fun next program => (next, program)
  | .set s => emitOne (.take s)
  | .look l => emitOne (.check l)
  | .seq a b => fun next program =>
    let (second, program) := emit b next program
    emit a second program
  | .alt a b => fun next program =>
    let (second, program) := emit b next program
    let (first, program) := emit a next program
    (program.size, program.push (.choose first second))
  | .group index a => fun next program =>
    let (close, program) := emitOne (.mark (2 * index + 1)) next program
    let (start, program) := emit a close program
    emitOne (.mark (2 * index)) start program
  | .repeated a least most greedy => fun next program =>
    match most with
    | none =>
      match least with
      | 0 => emitStar greedy a.consumes (emit a) next program
      | count + 1 =>
        let (loop, program) := emitLoop greedy (emit a) next program
        emitTimes (emit a) count loop program
    | some most =>
      let (optional, program) := emitUpTo greedy (emit a) next (most - least) next program
      emitTimes (emit a) least optional program

/-- A program and the instruction it starts with. -/
structure Matcher where
  program : Program
  start : Nat
  /-- The number of places that are remembered. -/
  slots : Nat

/-- The program for a pattern with this many groups; the whole match is group zero. -/
def Matcher.ofNode (node : Node) (groups : Nat) : Matcher :=
  let (start, program) := emit (.group 0 node) 0 #[.accept]
  ⟨program, start, 2 * groups + 2⟩

/-! ## Running programs -/

/-- Places remembered so far. -/
abbrev Slots := Array (Option Nat)

/-- One way through the program. -/
structure Thread where
  position : Nat
  slots : Slots

/-- The ways that are followed at one place of the text, in order of preference, and for every
instruction the number of places up to the last one where some way has come through it. -/
structure Crowd where
  threads : Array Thread
  visited : Array Nat

def Crowd.empty (size : Nat) : Crowd := ⟨#[], Array.replicate size 0⟩

/-- Follows ways to where they take a character or accept. Every instruction is followed once, and
leads to at most two others. -/
def follow (program : Program) (before after : Option Char) (place : Nat) :
    Nat → List Thread → Crowd → Crowd
  | 0, _, crowd => crowd
  | _, [], crowd => crowd
  | fuel + 1, t :: pending, crowd =>
    if place < crowd.visited.getD t.position (place + 1) then
      follow program before after place fuel pending crowd
    else
      let crowd := { crowd with visited := crowd.visited.setIfInBounds t.position (place + 1) }
      match program[t.position]? with
      | some (.choose preferred other) =>
        follow program before after place fuel (⟨preferred, t.slots⟩ :: ⟨other, t.slots⟩ :: pending)
          crowd
      | some (.mark slot next) =>
        follow program before after place fuel
          (⟨next, t.slots.setIfInBounds slot (some place)⟩ :: pending) crowd
      | some (.check look next) =>
        follow program before after place fuel
          (if look.holds before after then ⟨next, t.slots⟩ :: pending else pending) crowd
      | _ =>
        follow program before after place fuel pending
          { crowd with threads := crowd.threads.push t }

namespace Matcher

/-- Adds a way to a crowd. -/
def enter (m : Matcher) (text : Array Char) (place : Nat) (t : Thread) (crowd : Crowd) : Crowd :=
  let before := if place = 0 then none else text[place - 1]?
  follow m.program before text[place]? place (2 * m.program.size + 2) [t] crowd

/-- Lets the ways of a crowd take the character at `place`. A way that accepts ends the list: those
after it are less preferred. -/
def advance (m : Matcher) (text : Array Char) (place : Nat) :
    List Thread → Crowd → Crowd × Option Slots
  | [], crowd => (crowd, none)
  | t :: threads, crowd =>
    match m.program[t.position]? with
    | some .accept => (crowd, some t.slots)
    | some (.take s next) =>
      if text[place]?.any s.contains then
        m.advance text place threads (m.enter text (place + 1) ⟨next, t.slots⟩ crowd)
      else m.advance text place threads crowd
    | _ => m.advance text place threads crowd

/-- Goes through the last `count` places of a text. As long as nothing matches, a new way starts
at every place. -/
def run (m : Matcher) (text : Array Char) (best : Option Slots) (crowd : Crowd) :
    Nat → Option Slots
  | 0 => best
  | count + 1 =>
    let place := text.size - count
    let crowd := if best.isSome then crowd
      else m.enter text place ⟨m.start, Array.replicate m.slots none⟩ crowd
    if crowd.threads.isEmpty && best.isSome then best
    else
      let (next, accepted) := m.advance text place crowd.threads.toList ⟨#[], crowd.visited⟩
      m.run text (accepted.or best) next count

/-- The places of the leftmost match that starts at `start` or later. -/
def search (m : Matcher) (text : Array Char) (start : Nat) : Option Slots :=
  if start ≤ text.size then
    m.run text none (Crowd.empty m.program.size) (text.size - start + 1)
  else none

end Matcher

end XslLowering.Pattern
