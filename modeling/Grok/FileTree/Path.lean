import Grok.Text.Basic

namespace Grok

abbrev Path := List UInt8

namespace Text

def encoded (t : Text) : Path := t.flatMap String.utf8EncodeChar

def decoded? (bytes : ByteArray) : Option Text := (String.fromUTF8? bytes).map String.toList

theorem encoded_cons (c : Char) (t : Text) : encoded (c :: t) = String.utf8EncodeChar c ++ t.encoded :=
  List.flatMap_cons

theorem toByteArray_encoded (t : Text) : t.encoded.toByteArray = (String.ofList t).toByteArray :=
  String.toByteArray_ofList.symm

theorem decoded?_eq_some_iff {bytes : ByteArray} {t : Text} :
    decoded? bytes = some t ↔ bytes = t.encoded.toByteArray := by
  rw [toByteArray_encoded, decoded?, Option.map_eq_some_iff]
  constructor
  · rintro ⟨s, hs, rfl⟩
    unfold String.fromUTF8? at hs
    split at hs
    · cases hs
      rw [String.ofList_toList]
      rfl
    · cases hs
  · rintro rfl
    refine ⟨String.ofList t, ?_, String.toList_ofList⟩
    unfold String.fromUTF8?
    rw [dif_pos (String.ofList t).isValidUTF8]
    rfl

end Text

instance : Coe String Path := ⟨fun s => Text.encoded s.toList⟩

namespace Path

def slash : UInt8 := 0x2F

def dot : UInt8 := 0x2E

def text? (p : Path) : Option Text := Text.decoded? p.toByteArray

def first? (p : Path) : Option Char := (p.take 4).toByteArray.utf8DecodeChar? 0

def isBetween (low high byte : UInt8) : Bool := low ≤ byte && byte ≤ high

def mayFollow (first second : UInt8) : Bool :=
  if first = 0xE0 then isBetween 0xA0 0xBF second
  else if first = 0xED then isBetween 0x80 0x9F second
  else if isBetween 0xE1 0xEF first then isBetween 0x80 0xBF second
  else if first = 0xF0 then isBetween 0x90 0xBF second
  else if isBetween 0xF1 0xF3 first then isBetween 0x80 0xBF second
  else if first = 0xF4 then isBetween 0x80 0x8F second
  else false

/-- How many bytes behind the first one belong to a character that is broken off. -/
def brokenTail (first : UInt8) : Path → Nat
  | second :: rest =>
    if mayFollow first second then
      match rest with
      | third :: _ => if 0xF0 ≤ first && isBetween 0x80 0xBF third then 2 else 1
      | [] => 1
    else 0
  | [] => 0

/-- A path as it is shown: each character that is broken off is replaced by one mark. -/
def display : Path → Text
  | [] => []
  | byte :: rest =>
    match first? (byte :: rest) with
    | some c => c :: display (rest.drop (c.utf8Size - 1))
    | none => '\uFFFD' :: display (rest.drop (brokenTail byte rest))
termination_by p => p.length
decreasing_by all_goals (simp only [List.length_drop, List.length_cons]; omega)

theorem text?_eq_some_iff {p : Path} {t : Text} : p.text? = some t ↔ p = t.encoded := by
  rw [text?, Text.decoded?_eq_some_iff]
  constructor
  · intro h
    simpa using congrArg (·.data.toList) h
  · rintro rfl
    rfl

example : display [dot, 0xE2, 0x82, 0xFF] = ['.', '\uFFFD', '\uFFFD'] := by cbv

end Path

end Grok
