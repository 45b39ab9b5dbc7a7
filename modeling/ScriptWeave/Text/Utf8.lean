/-
  ScriptWeave.Text.Utf8
  ─────────────────────
  **TEXTS AS BYTES.**

  A file holds bytes.  A text is written in UTF-8, and bytes are read back
  as a text only if they are UTF-8; what a process prints is read in any
  case, with U+FFFD for every stretch that is not.

      decode? (encode t) = some t

  A stretch that is not UTF-8 is one byte, or the bytes that could still
  have become a character when the next byte was met.
-/
import ScriptWeave.Text.Basic

namespace ScriptWeave.Text

/-! ## §1. Exact. -/

/-- The bytes of a text. -/
def encode (t : Text) : ByteArray := (String.ofList t).toUTF8

/-- The text that bytes stand for, if they do. -/
def decode? (b : ByteArray) : Option Text := b.utf8Decode?.map Array.toList

@[simp] theorem decode?_encode (t : Text) : decode? (encode t) = some t := by
  have h : (encode t).utf8Decode? = some t.toArray := List.utf8Decode?_utf8Encode
  simp [decode?, h]

/-- Different texts have different bytes. -/
theorem encode_injective {t u : Text} (h : encode t = encode u) : t = u := by
  have := congrArg decode? h
  simpa using this

/-- The byte size of a text is the number of its bytes. -/
theorem size_encode (t : Text) : (encode t).size = byteSize t := by
  have hbytes (u : Text) : (encode u).size = (u.flatMap String.utf8EncodeChar).length :=
    List.size_toByteArray
  induction t with
  | nil => rfl
  | cons c t ih =>
    rw [hbytes] at ih ⊢
    rw [List.flatMap_cons, List.length_append, String.length_utf8EncodeChar, ih, byteSize_cons]

/-! ## §2. Lossy. -/

/-- What stands for a stretch that is not UTF-8. -/
def replacement : Char := '\ufffd'

/-- Whether a byte continues a character. -/
def continues (b : UInt8) : Bool := 0x80 ≤ b && b ≤ 0xbf

/-- Whether a byte can be the second of a character of three bytes, given the first. -/
def secondOfThree (a b : UInt8) : Bool :=
  if a = 0xe0 then 0xa0 ≤ b && b ≤ 0xbf
  else if a = 0xed then 0x80 ≤ b && b ≤ 0x9f
  else continues b

/-- Whether a byte can be the second of a character of four bytes, given the first. -/
def secondOfFour (a b : UInt8) : Bool :=
  if a = 0xf0 then 0x90 ≤ b && b ≤ 0xbf
  else if a = 0xf4 then 0x80 ≤ b && b ≤ 0x8f
  else continues b

/-- The character whose bytes, of which the low bits count, follow each other. -/
def assemble (start : Nat) (bytes : List UInt8) : Char :=
  Char.ofNat (bytes.foldl (fun n b => n * 64 + b.toNat % 64) start)

/-- The character that starts with a byte, and how many of the bytes after it belong to it
or, if it is none, to the same stretch. -/
def lossyChar (a : UInt8) (rest : List UInt8) : Char × Nat :=
  if a < 0x80 then (Char.ofNat a.toNat, 0)
  else if a < 0xc2 || 0xf4 < a then (replacement, 0)
  else if a < 0xe0 then
    match rest with
    | [] => (replacement, 0)
    | b :: _ => if continues b then (assemble (a.toNat % 32) [b], 1) else (replacement, 0)
  else if a < 0xf0 then
    match rest with
    | [] => (replacement, 0)
    | b :: rest =>
      if !secondOfThree a b then (replacement, 0)
      else
        match rest with
        | [] => (replacement, 1)
        | c :: _ => if continues c then (assemble (a.toNat % 16) [b, c], 2) else (replacement, 1)
  else
    match rest with
    | [] => (replacement, 0)
    | b :: rest =>
      if !secondOfFour a b then (replacement, 0)
      else
        match rest with
        | [] => (replacement, 1)
        | c :: rest =>
          if !continues c then (replacement, 1)
          else
            match rest with
            | [] => (replacement, 2)
            | d :: _ =>
              if continues d then (assemble (a.toNat % 8) [b, c, d], 3) else (replacement, 2)

/-- The text of any bytes.  `skip` counts the bytes of the last stretch still to be
passed. -/
def lossyFrom : (skip : Nat) → List UInt8 → Text
  | _, [] => []
  | skip + 1, _ :: rest => lossyFrom skip rest
  | 0, a :: rest => (lossyChar a rest).1 :: lossyFrom (lossyChar a rest).2 rest

/-- The text of any bytes. -/
def lossy (b : ByteArray) : Text := lossyFrom 0 b.toList

end ScriptWeave.Text
