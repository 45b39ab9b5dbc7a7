/-
  ScriptWeave.Pattern.Meaning
  ───────────────────────────
  **WHAT A WRITTEN PATTERN MEANS.**

  Flags hold from where they are written to the end of the group around them,
  over the signs between alternatives.  Under `i` a set is closed under case
  before it is negated.  Without `u` sets and word boundaries end with ASCII,
  and what could then match one byte of a character is refused.
-/
import ScriptWeave.Pattern.Syntax

namespace ScriptWeave.Pattern

/-! ## §1. Flags. -/

/-- The flags in force. -/
structure Flags where
  /-- Case is ignored. -/
  anyCase : Bool := false
  /-- Anchors hold at lines. -/
  lines : Bool := false
  /-- The dot matches a line break. -/
  dotAll : Bool := false
  /-- Greedy and lazy are swapped. -/
  swapGreed : Bool := false
  /-- Sets and word boundaries reach beyond ASCII. -/
  wide : Bool := true
  /-- Lines end with a carriage return, too. -/
  anyLine : Bool := false
  deriving Repr, DecidableEq

namespace Flags

/-- Sets or clears one flag. -/
def set (f : Flags) : FlagChange → Flags
  | (.anyCase, v) => { f with anyCase := v }
  | (.lines, v) => { f with lines := v }
  | (.dotAll, v) => { f with dotAll := v }
  | (.swapGreed, v) => { f with swapGreed := v }
  | (.wide, v) => { f with wide := v }
  | (.anyLine, v) => { f with anyLine := v }
  | (.spaced, _) => f

/-- Sets and clears flags. -/
def change (f : Flags) (changes : List FlagChange) : Flags := changes.foldl Flags.set f

/-- A set as the flags ask for it: closed under case, beyond ASCII or within. -/
def fold (f : Flags) (s : CharSet) : CharSet :=
  if f.anyCase then if f.wide then .anyCase s else .inter .ascii (.anyCase s) else s

/-- All other characters.  Without `u` these include parts of characters. -/
def negate (f : Flags) (stretch : Stretch) (s : CharSet) : Except Fault CharSet :=
  if f.wide then .ok (.compl s) else .error (.at_ .splitsCharacter stretch)

/-- A set, or all other characters. -/
def negateIf (f : Flags) (negated : Bool) (stretch : Stretch) (s : CharSet) :
    Except Fault CharSet :=
  if negated then f.negate stretch s else .ok s

end Flags

/-! ## §2. Sets. -/

/-- The characters of a set with a letter. -/
def Shorthand.set : Shorthand → CharSet
  | .digit => .digit
  | .blank => .blank
  | .word => .word

/-- The characters that have a property. -/
def propertySet (q : Property.Query) (stretch : Stretch) : Except Fault CharSet :=
  match Property.find q with
  | .ok rs => .ok (.ranges rs)
  | .error .property => .error (.at_ .propertyUnknown stretch)
  | .error .value => .error (.at_ .propertyValueUnknown stretch)

/-- The set that an escape stands for.  Only properties are closed under case: the others are
so by themselves. -/
def SetEscape.meaning (f : Flags) (e : SetEscape) : Except Fault CharSet :=
  match e.name with
  | .shorthand s => f.negateIf e.negated e.stretch (if f.wide then s.set else .inter .ascii s.set)
  | .property q => do
    if !f.wide then throw (.at_ .beyondAscii e.stretch)
    f.negateIf e.negated e.stretch (f.fold (← propertySet q e.stretch))

/-- The character that is meant.  A byte beyond ASCII is a character only under `u`. -/
def Literal.meaning (f : Flags) (l : Literal) : Except Fault Char :=
  if !f.wide && l.byte && 0x80 ≤ l.char.toNat then .error (.at_ .splitsCharacter l.stretch)
  else .ok l.char

/-- The character that is meant in a class. -/
def Literal.inClass (f : Flags) (l : Literal) : Except Fault Char := do
  let c ← l.meaning f
  if !f.wide && 0x80 ≤ c.toNat then .error (.at_ .beyondAscii l.stretch) else return c

/-- The set an operator makes. -/
def SetOp.apply : SetOp → CharSet → CharSet → CharSet
  | .inter, s, t => .inter s t
  | .diff, s, t => .inter s (.compl t)
  | .symDiff, s, t => .inter (.union s t) (.compl (.inter s t))

/-- The set that is written in a class.  The sides of an operator are closed under case on
their own, so that the whole is, too. -/
def SetSyntax.meaning (f : Flags) : SetSyntax → Except Fault CharSet
  | .nothing => .ok .none
  | .literal l => return .single (← l.inClass f)
  | .range lo hi => return .range (← lo.inClass f) (← hi.inClass f)
  | .named s negated stretch => f.negateIf negated stretch (f.fold s)
  | .escape e => e.meaning f
  | .both s t => return .union (← s.meaning f) (← t.meaning f)
  | .several s _ => s.meaning f
  | .combined op s t _ => return op.apply (f.fold (← s.meaning f)) (f.fold (← t.meaning f))
  | .bracketed negated s stretch => do f.negateIf negated stretch (f.fold (← s.meaning f))

/-! ## §3. Patterns. -/

/-- Two nodes one after the other; an empty one leaves no trace. -/
def Node.andThen : Node → Node → Node
  | .empty, b => b
  | a, .empty => a
  | a, b => .cat a b

/-- One character of a set, which without `u` has ASCII only. -/
def Literal.node (f : Flags) (l : Literal) : Except Fault Node := do
  let c ← l.meaning f
  return .char (if f.wide || c.toNat < 0x80 then f.fold (.single c) else .single c)

/-- The dot. -/
def dotSet (f : Flags) : CharSet :=
  if f.dotAll then .compl .none
  else if f.anyLine then .compl (.union (.single '\r') (.single '\n'))
  else .compl (.single '\n')

/-- The sign for a start. -/
def startAnchor (f : Flags) : Anchor :=
  if f.lines then if f.anyLine then .anyLineStart else .lineStart else .textStart

/-- The sign for an end. -/
def stopAnchor (f : Flags) : Anchor :=
  if f.lines then if f.anyLine then .anyLineEnd else .lineEnd else .textEnd

/-- An anchor given by an escape: the ends of the text, or a word boundary. -/
def Flags.anchor (f : Flags) : Anchor → Anchor
  | .textStart => .textStart
  | .textEnd => .textEnd
  | a => if f.wide then a else .ascii a

/-- The node of a written pattern, and the flags in force behind it. -/
def Syntax.meaning : Syntax → Flags → Except Fault (Node × Flags)
  | .empty, f => .ok (.empty, f)
  | .flags changes, f => .ok (.empty, f.change changes)
  | .literal l, f => return (← l.node f, f)
  | .escape e, f => return (.char (← e.meaning f), f)
  | .set s, f => return (.char (← s.meaning f), f)
  | .dot stretch, f =>
    if f.wide then .ok (.char (dotSet f), f) else .error (.at_ .splitsCharacter stretch)
  | .start, f => .ok (.anchor (startAnchor f), f)
  | .stop, f => .ok (.anchor (stopAnchor f), f)
  | .anchor a, f => .ok (.anchor (f.anchor a), f)
  | .cat a b, f => do
    let (m, f) ← a.meaning f
    let (n, f) ← b.meaning f
    return (m.andThen n, f)
  | .sequence s _, f => s.meaning f
  | .alt a b, f => do
    let (m, f) ← a.meaning f
    let (n, f) ← b.meaning f
    return (.alt m n, f)
  | .choice s _, f => s.meaning f
  | .group kind body _, f => do
    match kind with
    | .numbered index =>
      let (n, _) ← body.meaning f
      return (.group index n, f)
    | .plain changes =>
      let (n, _) ← body.meaning (f.change changes)
      return (n, f)
  | .rep body min max greedy _, f => do
    let (n, f) ← body.meaning f
    return (.rep n min max (greedy != f.swapGreed), f)

end ScriptWeave.Pattern
