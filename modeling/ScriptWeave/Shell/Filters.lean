/-
  ScriptWeave.Shell.Filters
  ─────────────────────────
  **TOOLS THAT WORK ON LINES.**

  A filter reads files, or standard input if none are named, and prints what
  it makes of their lines.  A line ends in a line break, which the last line
  may lack.
-/
import ScriptWeave.Shell.Arithmetic
import ScriptWeave.Shell.FileTools
import ScriptWeave.Shell.Print
import ScriptWeave.Shell.Shape

namespace ScriptWeave.Shell

/-! ## §1. Lines. -/

/-- The lines of a text without their line breaks. -/
def linesOf (t : Text) : List Text :=
  let all := Text.splitOn '\n' t
  if all.getLast? = some [] then all.dropLast else all

/-- Lines with a line break behind each. -/
def ofLines (ls : List Text) : Text := ls.flatMap (· ++ ['\n'])

/-- Reads the operands, or standard input if there are none, and hands them on one by one;
a file that cannot be read is complained about with `lead` before its name. -/
def eachInput (lead : Text → Text) (operands : List Text) (one : Text → Text → Run Nat) : Run Nat :=
  forEach (fun p => do
    match ← readInput p with
    | .ok t => one p t
    | .error e => failed (lead p) e) (if operands.isEmpty then [['-']] else operands)

/-- All that the operands hold, one after the other, and the status of reading them. -/
def allInput (lead : Text → Text) (operands : List Text) : Run (Text × Nat) := do
  let mut all : Text := []
  let mut status := 0
  for p in (if operands.isEmpty then [['-']] else operands) do
    match ← readInput p with
    | .ok t => all := all ++ t
    | .error e => status := max status (← failed (lead p) e)
  return (all, status)

/-- The lead of complaints about files that cannot be opened. -/
def cannotOpen (name : Text) (p : Text) : Text :=
  name ++ ": cannot open " ++ shownName p ++ " for reading"

/-! ## §2. Beginnings and ends. -/

/-- The first `n` lines of a text, with their line breaks. -/
def takeLines : (n : Nat) → Text → Text
  | 0, _ => []
  | _, [] => []
  | n + 1, c :: t => if c = '\n' then c :: takeLines n t else c :: takeLines (n + 1) t

/-- A text without its first `n` lines. -/
def dropLines : (n : Nat) → Text → Text
  | 0, t => t
  | _, [] => []
  | n + 1, c :: t => if c = '\n' then dropLines n t else dropLines (n + 1) t

/-- The number of lines, a last one without a line break included. -/
def lineCount (t : Text) : Nat := (linesOf t).length

/-- Arguments of which the first is a dash before digits, which asks for so many lines. -/
def spellLines : List Text → List Text
  | ('-' :: c :: t) :: rest =>
    if c.isDigit && t.all Char.isDigit then ('-' :: 'n' :: c :: t) :: rest
    else ('-' :: c :: t) :: rest
  | args => args

/-- A tool that shows a part of each file; with several files each gets a headline. -/
def partTool (name : String) (part : (bytes : Bool) → (sign : Char) → Nat → Text → Text) : Tool :=
  fun args =>
    withOptions name "qv" "nc" (spellLines args) (fun g => do
      let bytes := (g.value? 'c').isSome
      let amount := (g.value? 'c').getD ((g.value? 'n').getD "10")
      let (sign, digits) := match amount with
        | '-' :: r => ('-', r)
        | '+' :: r => ('+', r)
        | r => (' ', r)
      if digits.isEmpty || !digits.all Char.isDigit then
        complain (name.toList ++ ": invalid number of " ++ (if bytes then "bytes" else "lines")
          ++ ": " ++ shownName amount)
        return 1
      else
        if name = "tail" && 1 < g.operands.length && spellLines args != args then
          complain ("tail: option used in invalid context -- " ++ digits)
          return 1
        let headed := (1 < g.operands.length || g.has 'v') && !g.has 'q'
        let mut first := true
        let mut status := 0
        for p in (if g.operands.isEmpty then [['-']] else g.operands) do
          match ← readInput p with
          | .error e => status := max status (← failed (cannotOpen name p) e)
          | .ok t =>
            if headed then
              let title : Text := if p = ['-'] then "standard input" else p
              out ((if first then [] else ['\n']) ++ "==> " ++ title ++ " <==\n")
            first := false
            out (part bytes sign (Decimal.ofDigits digits) t)
        return status)

/-- Shows the beginnings of files. -/
def head : Tool :=
  partTool "head" (fun bytes sign n t =>
    if bytes then t.take (if sign = '-' then t.length - n else n)
    else takeLines (if sign = '-' then lineCount t - n else n) t)

/-- Shows the ends of files. -/
def tail : Tool :=
  partTool "tail" (fun bytes sign n t =>
    if bytes then t.drop (if sign = '+' then n - 1 else t.length - n)
    else dropLines (if sign = '+' then n - 1 else lineCount t - n) t)

/-! ## §3. Counting. -/

/-- The number of words of a text; `inside` says that a word has begun. -/
def wordCount : (inside : Bool) → Text → Nat
  | _, [] => 0
  | inside, c :: t =>
    if c.isWhitespace || c == '\x0b' || c == '\x0c' then wordCount false t
    else (if inside then 0 else 1) + wordCount true t

/-- Counts lines, words and bytes. -/
def wc : Tool := fun args =>
  withOptions "wc" "lwcm" "" args (fun g => do
    let any := !g.options.isEmpty
    let counts (t : Text) : List Nat :=
      (if !any || g.has 'l' then [t.count '\n'] else [])
        ++ (if !any || g.has 'w' then [wordCount false t] else [])
        ++ (if !any || g.has 'c' || g.has 'm' then [t.length] else [])
    let mut results : List (Text × List Nat) := []
    let mut status := 0
    let mut size := 0
    for p in (if g.operands.isEmpty then [['-']] else g.operands) do
      match ← readInput p with
      | .ok t =>
        results := results ++ [(if g.operands.isEmpty then [] else p, counts t)]
        size := size + t.length
      | .error e => status := max status (← failed ("wc: " ++ p) e)
    let st ← get
    let regular := match channelOf? st 0 with
      | some (_, .file _ _ _) => true
      | _ => false
    let columns := (counts []).length
    let alone := columns = 1 && results.length ≤ 1
    let width :=
      if alone then 1
      else if g.operands.isEmpty && !regular then 7
      else (Decimal.digits size).length
    let total := (List.range columns).map (fun i => results.foldl (fun n r => n + r.2.getD i 0) 0)
    let shown := if 1 < g.operands.length then results ++ [("total".toList, total)] else results
    for (p, ns) in shown do
      let numbers := ns.map (fun n => padTo width false (Decimal.digits n))
      out (Text.join [' '] numbers ++ (if p.isEmpty then [] else ' ' :: p) ++ ['\n'])
    return status)

/-! ## §4. Order. -/

/-- Whether a text comes before or with another, character by character. -/
def textBefore : Text → Text → Bool
  | [], _ => true
  | _ :: _, [] => false
  | a :: as, b :: bs => if a = b then textBefore as bs else a < b

/-- The whole number at the start of a line. -/
def leadingNumber (t : Text) : Int :=
  let t := t.dropWhile (fun c => c == ' ' || c == '\t')
  match t with
  | '-' :: r => -(Decimal.ofDigits (r.takeWhile Char.isDigit))
  | r => Decimal.ofDigits (r.takeWhile Char.isDigit)

/-- Lines of which neighbours are equal only once. -/
def dropRepeats (same : Text → Text → Bool) : List Text → List Text
  | [] => []
  | a :: rest =>
    match dropRepeats same rest with
    | b :: more => if same a b then a :: more else a :: b :: more
    | [] => [a]

/-- Sorts lines. -/
def sort : Tool := fun args =>
  withOptions "sort" "rnusfbdi" "kto" args (fun g => do
    let (t, status) ← allInput (fun p => "sort: cannot read: " ++ p) g.operands
    if status != 0 then return 2
    let numeric := g.has 'n'
    let le (a b : Text) : Bool :=
      if numeric then
        if leadingNumber a = leadingNumber b then textBefore a b
        else leadingNumber a < leadingNumber b
      else textBefore a b
    let sorted := (linesOf t).mergeSort (if g.has 'r' then fun a b => le b a else le)
    let same (a b : Text) : Bool := if numeric then leadingNumber a == leadingNumber b else a == b
    out (ofLines (if g.has 'u' then dropRepeats same sorted else sorted))
    return 0)

/-- Neighbouring lines that are equal, each with how often it stands there. -/
def runsOf : List Text → List (Text × Nat)
  | [] => []
  | a :: rest =>
    match runsOf rest with
    | (b, n) :: more => if a = b then (b, n + 1) :: more else (a, 1) :: (b, n) :: more
    | [] => [(a, 1)]

/-- Shows lines that are repeated only once. -/
def uniq : Tool := fun args =>
  withOptions "uniq" "cdu" "" args (fun g => do
    let (t, status) ← allInput (fun p => "uniq: " ++ p) g.operands
    let runs := (runsOf (linesOf t)).filter (fun r =>
      (!g.has 'd' || 1 < r.2) && (!g.has 'u' || r.2 = 1))
    out (ofLines (runs.map (fun r =>
      if g.has 'c' then padTo 7 false (Decimal.digits r.2) ++ ' ' :: r.1 else r.1)))
    return status)

/-- Shows lines in reverse order. -/
def tac : Tool := fun args =>
  withOptions "tac" "" "" args (fun g =>
    eachInput (fun p => "tac: failed to open " ++ shownName p ++ " for reading") g.operands
      (fun _ t => do
        out (ofLines (linesOf t).reverse)
        return 0))

/-- Shows the characters of each line in reverse order. -/
def rev : Tool := fun args =>
  withOptions "rev" "" "" args (fun g =>
    eachInput (fun p => "rev: cannot open " ++ p) g.operands (fun _ t => do
      let lines := Text.splitOn '\n' t
      out (Text.join ['\n'] (lines.map List.reverse))
      return 0))

/-! ## §5. Columns. -/

/-- The ranges that a list of numbers and ranges stands for. -/
def rangesOf? (t : Text) : Option (List (Nat × Option Nat)) :=
  (Text.splitOn ',' t).mapM (fun item =>
    let first := item.takeWhile Char.isDigit
    match item.drop first.length with
    | [] => if first.isEmpty then none else some (Decimal.ofDigits first, some (Decimal.ofDigits first))
    | '-' :: last =>
      if !last.all Char.isDigit || (first.isEmpty && last.isEmpty) then none
      else
        some (if first.isEmpty then 1 else Decimal.ofDigits first,
          if last.isEmpty then none else some (Decimal.ofDigits last))
    | _ => none)

/-- Whether a number lies in one of some ranges. -/
def inList (rs : List (Nat × Option Nat)) (n : Nat) : Bool :=
  rs.any (fun r => r.1 ≤ n && (match r.2 with
    | some m => n ≤ m
    | none => true))

/-- The items of a list whose numbers, from 1 on, are chosen. -/
def chosen {α : Type} (rs : List (Nat × Option Nat)) (xs : List α) : List α :=
  (xs.zipIdx.filter (fun x => inList rs (x.2 + 1))).map (·.1)

/-- Shows parts of lines. -/
def cut : Tool := fun args =>
  withOptions "cut" "sn" "dfcb" args (fun g => do
    let separator := ((g.value? 'd').getD ['\t']).headD '\t'
    let list := (g.value? 'f').orElse (fun _ => (g.value? 'c').orElse (fun _ => g.value? 'b'))
    match list.bind rangesOf? with
    | none => misuse "cut" "you must specify a list of bytes, characters, or fields"
    | some rs =>
      eachInput (fun p => "cut: " ++ p) g.operands (fun _ t => do
        out (ofLines ((linesOf t).filterMap (fun line =>
          if (g.value? 'f').isSome then
            if line.contains separator then
              some (Text.join [separator] (chosen rs (Text.splitOn separator line)))
            else if g.has 's' then none
            else some line
          else some (chosen rs line))))
        return 0))

/-! ## §6. Characters. -/

/-- The characters that a set of `tr` lists, in order. -/
def charactersOf : (fuel : Nat) → Text → Text
  | 0, _ => []
  | _, [] => []
  | fuel + 1, '[' :: ':' :: t =>
    let name := t.takeWhile (· != ':')
    let ranges := namedRanges (String.ofList name)
    match t.drop name.length with
    | ':' :: ']' :: rest =>
      if ranges.isEmpty then '[' :: charactersOf fuel (':' :: t)
      else
        ((List.range 256).map Char.ofNat).filter (fun c => ranges.any (fun r => r.1 ≤ c && c ≤ r.2))
          ++ charactersOf fuel rest
    | _ => '[' :: charactersOf fuel (':' :: t)
  | fuel + 1, a :: '-' :: b :: rest =>
    (List.range (b.toNat + 1 - a.toNat)).map (fun i => Char.ofNat (a.toNat + i))
      ++ charactersOf fuel rest
  | fuel + 1, c :: rest => c :: charactersOf fuel rest

/-- The characters of a text once where neighbours among the given ones are equal. -/
def squeeze (set : Char → Bool) : Text → Text
  | [] => []
  | c :: t =>
    match squeeze set t with
    | d :: rest => if c = d && set c then d :: rest else c :: d :: rest
    | [] => [c]

/-- Replaces, deletes or squeezes characters. -/
def tr : Tool := fun args =>
  withOptions "tr" "cCdst" "" args (fun g => do
    let characters (t : Text) : Text :=
      let t := (unescape false 0 t).1
      charactersOf (t.length + 1) t
    match g.operands with
    | [] => misuse "tr" "missing operand"
    | first :: more =>
      let listed := characters first
      let complement := g.has 'c' || g.has 'C'
      let from_ : Text :=
        if complement then ((List.range 256).map Char.ofNat).filter (fun c => !listed.contains c)
        else listed
      let to_ := characters (more.headD [])
      if more.isEmpty && !g.has 'd' && !g.has 's' then
        misuse "tr" ("missing operand after " ++ shownName first
          ++ "\nTwo strings must be given when translating.")
      else
        let t ← readAll 0
        let replaced :=
          if g.has 'd' then t.filter (fun c => !from_.contains c)
          else if more.isEmpty then t
          else
            t.map (fun c =>
              match from_.idxOf? c with
              | some i => (to_[i]?).getD (to_.getLast?.getD c)
              | none => c)
        let squeezed :=
          if g.has 's' then
            let set := if more.isEmpty then from_ else to_
            squeeze set.contains replaced
          else replaced
        out squeezed
        return 0)

/-! ## §7. Others. -/

/-- Copies standard input to files and to standard output. -/
def tee : Tool := fun args =>
  withOptions "tee" "ai" "" args (fun g => do
    let t ← readAll 0
    out t
    forEach (fun p => do
      let old ← atPath Files.readBytes p
      let before := match old with
        | .ok b => if g.has 'a' then b else ByteArray.empty
        | .error _ => ByteArray.empty
      match ← changeAt (fun s q => s.writeBytes q (before ++ toBytes t)) p with
      | .ok () => return 0
      | .error e => failed ("tee: " ++ p) e) g.operands)

/-- The numbers from one to another with a step between them. -/
def numbersTo (step last : Int) : (fuel : Nat) → Int → List Int
  | 0, _ => []
  | fuel + 1, n =>
    if (0 < step && n ≤ last) || (step < 0 && last ≤ n) then n :: numbersTo step last fuel (n + step)
    else []

/-- Shows numbers. -/
def seq : Tool := fun args => do
  match args.find? (fun a => (intOf? a).isNone) with
  | some a => misuse "seq" ("invalid floating point argument: " ++ shownName a)
  | none =>
    let show_ (first step last : Int) : Run Nat := do
      if step = 0 then
        misuse "seq" ("invalid Zero increment value: \x27" ++ intText step ++ "\x27")
      else
        let count := ((last - first).natAbs / step.natAbs) + 1
        out (ofLines ((numbersTo step last count first).map intText))
        return 0
    match args.filterMap intOf? with
    | [last] => show_ 1 1 last
    | [first, last] => show_ first 1 last
    | [first, step, last] => show_ first step last
    | [] => misuse "seq" "missing operand"
    | _ => misuse "seq" ("extra operand " ++ shownName (args.getD 3 []))

/-- Waits for a time that does not count here. -/
def sleep : Tool := fun args => do
  let isTime (a : Text) : Bool :=
    let digits := a.takeWhile (fun c => c.isDigit || c == '.')
    digits.any Char.isDigit && ["", "s", "m", "h", "d"].contains (String.ofList (a.drop digits.length))
  if args.isEmpty then misuse "sleep" "missing operand"
  else
    match args.find? (fun a => !isTime a) with
    | some a => misuse "sleep" ("invalid time interval " ++ shownName a)
    | none => return 0

end ScriptWeave.Shell
