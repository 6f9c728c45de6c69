import Mathlib.Data.List.TakeWhile
import Mathlib.Tactic.Common

/-!
# Percent-encoding

Texts as the characters of a URL: a character that is not safe becomes the bytes of its UTF-8, each written
as `%` and two hexadecimal digits.  The reader works on bytes, and undoes the escapes.

* `decode_encode`: what is encoded is read as it was, whichever characters are safe, as long as they are ASCII
  and mean nothing to the reader.
* `encode_encode`: encoding again, with `%` and the digits safe, is encoding with fewer safe characters.
-/

namespace Percent

/-- The bytes of a text. -/
def utf8 (cs : List Char) : List UInt8 := cs.flatMap String.utf8EncodeChar

def hexDigit (n : ℕ) : Char := "0123456789ABCDEF".toList.getD n '0'

def escapeByte (b : UInt8) : List Char := ['%', hexDigit (b.toNat / 16), hexDigit (b.toNat % 16)]

def escape (c : Char) : List Char := (String.utf8EncodeChar c).flatMap escapeByte

def encode (safe : Char → Bool) (cs : List Char) : List Char :=
  cs.flatMap fun c => if safe c then [c] else escape c

def hexValue (b : UInt8) : Option ℕ :=
  if 0x30 ≤ b.toNat ∧ b.toNat ≤ 0x39 then some (b.toNat - 0x30)
  else if 0x41 ≤ b.toNat ∧ b.toNat ≤ 0x46 then some (b.toNat - 0x41 + 10)
  else if 0x61 ≤ b.toNat ∧ b.toNat ≤ 0x66 then some (b.toNat - 0x61 + 10)
  else none

/-- The bytes with their escapes undone, and `f` done to the others.  A `%` without two digits is an error. -/
def decode (f : UInt8 → UInt8) : List UInt8 → Option (List UInt8)
  | [] => some []
  | b :: bs =>
    if b = 0x25 then
      match bs with
      | hi :: lo :: bs =>
        (hexValue hi).bind fun hi => (hexValue lo).bind fun lo =>
          (decode f bs).map fun bs => UInt8.ofNat (hi * 16 + lo) :: bs
      | _ => none
    else (decode f bs).map fun bs => f b :: bs

variable {safe safe' : Char → Bool} {f : UInt8 → UInt8}

theorem decode_percent (hi lo : UInt8) (bs : List UInt8) : decode f (0x25 :: hi :: lo :: bs) =
    (hexValue hi).bind fun hi => (hexValue lo).bind fun lo =>
      (decode f bs).map fun bs => UInt8.ofNat (hi * 16 + lo) :: bs := by
  conv_lhs => unfold decode
  rw [if_pos rfl]

theorem decode_cons {b : UInt8} (h : b ≠ 0x25) (bs : List UInt8) :
    decode f (b :: bs) = (decode f bs).map fun bs => f b :: bs := by
  conv_lhs => unfold decode
  rw [if_neg h]

/-! ### Bytes -/

@[simp] theorem utf8_nil : utf8 [] = [] := rfl

theorem utf8_cons (c : Char) (cs : List Char) : utf8 (c :: cs) = String.utf8EncodeChar c ++ utf8 cs := rfl

@[simp] theorem utf8_append (cs cs' : List Char) : utf8 (cs ++ cs') = utf8 cs ++ utf8 cs' :=
  List.flatMap_append ..

/-- Different texts have different bytes. -/
theorem utf8_inj {cs cs' : List Char} : utf8 cs = utf8 cs' ↔ cs = cs' := by
  constructor
  · intro h
    have hbytes : cs.utf8Encode = cs'.utf8Encode := congrArg List.toByteArray h
    have hstrings : String.ofList cs = String.ofList cs' := by
      rw [← String.toByteArray_inj, String.toByteArray_ofList, String.toByteArray_ofList, hbytes]
    exact String.ofList_injective hstrings
  · rintro rfl
    rfl

/-- A character of ASCII is one byte. -/
theorem utf8EncodeChar_ascii {c : Char} (h : c.toNat < 0x80) :
    String.utf8EncodeChar c = [UInt8.ofNat c.toNat] := by
  have hle : c.val.toNat ≤ 0x7f := by
    show c.toNat ≤ 0x7f
    omega
  unfold String.utf8EncodeChar
  exact if_pos hle

theorem utf8_cons_ascii {c : Char} (h : c.toNat < 0x80) (cs : List Char) :
    utf8 (c :: cs) = UInt8.ofNat c.toNat :: utf8 cs := by
  rw [utf8_cons, utf8EncodeChar_ascii h]
  rfl

/-- A byte of a text of ASCII is one of its characters. -/
theorem mem_utf8_ascii {cs : List Char} (h : ∀ c ∈ cs, c.toNat < 0x80) {b : UInt8} (hb : b ∈ utf8 cs) :
    ∃ c ∈ cs, b.toNat = c.toNat := by
  obtain ⟨c, hc, hb⟩ := List.mem_flatMap.mp hb
  have hlt := h c hc
  rw [utf8EncodeChar_ascii hlt, List.mem_singleton] at hb
  refine ⟨c, hc, ?_⟩
  rw [hb, UInt8.toNat_ofNat']
  omega

/-! ### Digits -/

theorem hexDigit_lt (n : ℕ) : (hexDigit n).toNat < 0x80 := by
  have hall : ∀ k : Fin 16, (hexDigit k).toNat < 0x80 := by decide
  by_cases h : n < 16
  · exact hall ⟨n, h⟩
  · have hzero : hexDigit n = '0' := by
      unfold hexDigit
      rw [List.getD_eq_getElem?_getD, List.getElem?_eq_none (by simpa using h)]
      rfl
    rw [hzero]
    decide

theorem hexValue_hexDigit {n : ℕ} (h : n < 16) : hexValue (UInt8.ofNat (hexDigit n).toNat) = some n := by
  have hall : ∀ k : Fin 16, hexValue (UInt8.ofNat (hexDigit k).toNat) = some k.val := by decide
  exact hall ⟨n, h⟩

/-- An escape is read as its byte. -/
theorem decode_escapeByte (b : UInt8) (bs : List UInt8) :
    decode f (utf8 (escapeByte b) ++ bs) = (decode f bs).map fun bs => b :: bs := by
  have hb : b.toNat < 256 := UInt8.toNat_lt b
  have hbytes : utf8 (escapeByte b) ++ bs = 0x25 :: UInt8.ofNat (hexDigit (b.toNat / 16)).toNat ::
      UInt8.ofNat (hexDigit (b.toNat % 16)).toNat :: bs := by
    unfold escapeByte
    rw [utf8_cons_ascii (by decide), utf8_cons_ascii (hexDigit_lt _), utf8_cons_ascii (hexDigit_lt _)]
    rfl
  have hbyte : UInt8.ofNat (b.toNat / 16 * 16 + b.toNat % 16) = b := by
    rw [Nat.div_add_mod']
    exact UInt8.ofNat_toNat
  rw [hbytes, decode_percent, hexValue_hexDigit (by omega),
    hexValue_hexDigit (by omega), Option.bind_some, Option.bind_some, hbyte]

theorem decode_escapes (bs bs' : List UInt8) :
    decode f (utf8 (bs.flatMap escapeByte) ++ bs') = (decode f bs').map fun bs' => bs ++ bs' := by
  induction bs with
  | nil => simp
  | cons b bs ih =>
    rw [List.flatMap_cons, utf8_append, List.append_assoc, decode_escapeByte, ih, Option.map_map]
    rfl

/-! ### Round trip -/

/-- Characters that the reader takes for themselves. -/
def Plain (f : UInt8 → UInt8) (safe : Char → Bool) : Prop :=
  ∀ c, safe c = true → c.toNat < 0x80 ∧ c ≠ '%' ∧ f (UInt8.ofNat c.toNat) = UInt8.ofNat c.toNat

/-- **What is encoded is read as it was.** -/
theorem decode_encode (h : Plain f safe) (cs : List Char) :
    decode f (utf8 (encode safe cs)) = some (utf8 cs) := by
  induction cs with
  | nil => rfl
  | cons c cs ih =>
    have hcons : encode safe (c :: cs) = (if safe c then [c] else escape c) ++ encode safe cs := rfl
    rw [hcons, utf8_append, utf8_cons]
    by_cases hc : safe c = true
    · obtain ⟨hlt, hne, hf⟩ := h c hc
      have hbyte : UInt8.ofNat c.toNat ≠ 0x25 := by
        intro heq
        have hnat := congrArg UInt8.toNat heq
        rw [UInt8.toNat_ofNat'] at hnat
        have hcode : c.toNat = '%'.toNat := by
          show c.toNat = 0x25
          have : (0x25 : UInt8).toNat = 0x25 := rfl
          omega
        exact hne (Char.toNat_inj.mp hcode)
      rw [if_pos hc, utf8_cons_ascii hlt, utf8EncodeChar_ascii hlt, utf8_nil, List.singleton_append,
        decode_cons hbyte, ih, hf]
      rfl
    · rw [if_neg hc, escape, decode_escapes, ih]
      rfl

/-- A character of an encoded text is safe, or one of an escape. -/
theorem mem_encode {cs : List Char} {c : Char} (hc : c ∈ encode safe cs) :
    safe c = true ∨ c = '%' ∨ ∃ n, n < 16 ∧ c = hexDigit n := by
  obtain ⟨d, -, hc⟩ := List.mem_flatMap.mp hc
  split at hc
  · rename_i hsafe
    rw [List.mem_singleton] at hc
    rw [hc]
    exact .inl hsafe
  · obtain ⟨b, -, hb⟩ := List.mem_flatMap.mp hc
    have hlt : b.toNat < 256 := UInt8.toNat_lt b
    simp only [escapeByte, List.mem_cons, List.not_mem_nil, or_false] at hb
    rcases hb with rfl | rfl | rfl
    · exact .inr (.inl rfl)
    · exact .inr (.inr ⟨b.toNat / 16, by omega, rfl⟩)
    · exact .inr (.inr ⟨b.toNat % 16, by omega, rfl⟩)

theorem encode_eq_self {cs : List Char} (h : ∀ c ∈ cs, safe c = true) : encode safe cs = cs := by
  induction cs with
  | nil => rfl
  | cons c cs ih =>
    have hcons : encode safe (c :: cs) = (if safe c then [c] else escape c) ++ encode safe cs := rfl
    rw [hcons, if_pos (h c List.mem_cons_self), ih fun d hd => h d (List.mem_cons_of_mem _ hd)]
    rfl

theorem encode_append (cs cs' : List Char) : encode safe (cs ++ cs') = encode safe cs ++ encode safe cs' :=
  List.flatMap_append ..

/-- **Encoding twice**, the second time with the escapes safe, is encoding once. -/
theorem encode_encode (hpercent : safe' '%' = true) (hdigits : ∀ n, n < 16 → safe' (hexDigit n) = true)
    (cs : List Char) : encode safe' (encode safe cs) = encode (fun c => safe c && safe' c) cs := by
  induction cs with
  | nil => rfl
  | cons c cs ih =>
    have hcons : ∀ s : Char → Bool, encode s (c :: cs) = (if s c then [c] else escape c) ++ encode s cs :=
      fun _ => rfl
    rw [hcons, hcons, encode_append, ih]
    congr 1
    by_cases hc : safe c = true
    · rw [if_pos hc]
      show (if safe' c then [c] else escape c) ++ [] = _
      rw [List.append_nil, hc, Bool.true_and]
    · rw [if_neg hc, if_neg fun hand => hc (Bool.and_eq_true_iff.mp hand).1]
      refine encode_eq_self fun d hd => ?_
      have hmem : d ∈ encode (fun _ => false) [c] := by
        show d ∈ escape c ++ []
        rw [List.append_nil]
        exact hd
      rcases mem_encode hmem with hfalse | rfl | ⟨n, hn, rfl⟩
      · cases hfalse
      · exact hpercent
      · exact hdigits n hn

end Percent
