import TinyTelegram.Lib.Json

/-!
# Printed JSON

Compact printers, one for each way to write strings, and that they are undone by the parser.

* `string_print`: a printed string is read as it was.
* `value_print`: so is a printed value, whatever follows it, if that does not go on with a number.
* `parse_print`: a printed text is parsed to the value that was printed, with white space around it or
  without.
-/

namespace Json

/-! ### Strings -/

/-- The code points of a string literal go on. -/
def push (c : Char) : List ℕ × List Char → List ℕ × List Char := fun (us, rest) => (c.toNat :: us, rest)

/-- How the characters of a string are written, so that each is read as it was. -/
structure Style where
  escape : Char → List Char
  read : ∀ c cs, stringUnits (escape c ++ cs) = (stringUnits cs).map (push c)

/-- The lower case digit. -/
def hexDigit (n : ℕ) : Char := "0123456789abcdef".toList.getD n '0'

/-- `\u` and four digits. -/
def unicodeEscape (n : ℕ) : List Char :=
  ['\\', 'u', hexDigit (n / 0x1000 % 0x10), hexDigit (n / 0x100 % 0x10), hexDigit (n / 0x10 % 0x10),
    hexDigit (n % 0x10)]

theorem hexValue_hexDigit {n : ℕ} (h : n < 0x10) : hexValue (hexDigit n) = some n := by
  have hall : ∀ k : Fin 0x10, hexValue (hexDigit k) = some k.val := by decide
  exact hall ⟨n, h⟩

/-- A code point below `0x10000` is read from its escape. -/
theorem stringUnits_unicodeEscape {c : Char} (h : c.toNat < 0x10000) (cs : List Char) :
    stringUnits (unicodeEscape c.toNat ++ cs) = (stringUnits cs).map (push c) := by
  have hhex : hex4 (hexDigit (c.toNat / 0x1000 % 0x10)) (hexDigit (c.toNat / 0x100 % 0x10))
      (hexDigit (c.toNat / 0x10 % 0x10)) (hexDigit (c.toNat % 0x10)) = some c.toNat := by
    have hmod : ∀ n : ℕ, n % 0x10 < 0x10 := fun n => Nat.mod_lt n (by decide)
    unfold hex4
    rw [hexValue_hexDigit (hmod _), hexValue_hexDigit (hmod _), hexValue_hexDigit (hmod _),
      hexValue_hexDigit (hmod _)]
    show some _ = some _
    congr 1
    omega
  unfold unicodeEscape
  simp only [List.cons_append, List.nil_append, stringUnits]
  rw [hhex, Option.bind_some]
  rfl

/-- The escapes of one character that both printers use. -/
def shortcut : Char → Option Char
  | '"' => some '"'
  | '\\' => some '\\'
  | '\x08' => some 'b'
  | '\x0c' => some 'f'
  | '\n' => some 'n'
  | '\r' => some 'r'
  | '\t' => some 't'
  | _ => none

/-- A character that has a short escape is written so, one that satisfies `p` by its code point, and any
other as it is. -/
def escapeWith (p : Char → Bool) (c : Char) : List Char :=
  match shortcut c with
  | some e => ['\\', e]
  | none => if p c then unicodeEscape c.toNat else [c]

theorem read_escapeWith {p : Char → Bool} (hp : ∀ c, p c = true → c.toNat < 0x10000)
    (hcontrol : ∀ c : Char, c.toNat < 0x20 → p c = true) (c : Char) (cs : List Char) :
    stringUnits (escapeWith p c ++ cs) = (stringUnits cs).map (push c) := by
  unfold escapeWith
  cases hshort : shortcut c with
  | some e =>
    unfold shortcut at hshort
    split at hshort
    all_goals
      cases hshort
      try rfl
  | none =>
    have hquote : c ≠ '"' := by
      rintro rfl
      cases hshort
    have hslash : c ≠ '\\' := by
      rintro rfl
      cases hshort
    show stringUnits ((if p c then unicodeEscape c.toNat else [c]) ++ cs) = _
    split_ifs with hpc
    · exact stringUnits_unicodeEscape (hp c hpc) cs
    · have hplain : ¬ (c.toNat < 0x20 ∨ c = '\\') := by
        rw [not_or]
        exact ⟨fun hlt => hpc (hcontrol c hlt), hslash⟩
      rw [List.singleton_append, stringUnits.eq_def]
      split
      · rename_i heq
        cases heq
      · rename_i heq
        exact absurd (List.cons.inj heq).1 hquote
      · rename_i heq
        exact absurd (List.cons.inj heq).1 hslash
      · rename_i heq
        exact absurd (List.cons.inj heq).1 hslash
      · rename_i heq
        obtain ⟨rfl, rfl⟩ := List.cons.inj heq
        rw [if_neg hplain]
        rfl

/-- A style from the characters that are written by their code points. -/
def Style.ofEscapes (p : Char → Bool) (hp : ∀ c, p c = true → c.toNat < 0x10000)
    (hcontrol : ∀ c : Char, c.toNat < 0x20 → p c = true) : Style where
  escape := escapeWith p
  read := read_escapeWith hp hcontrol

def printString (style : Style) (s : String) : List Char :=
  '"' :: (s.toList.flatMap style.escape ++ ['"'])

theorem stringUnits_print (style : Style) (cs rest : List Char) :
    stringUnits (cs.flatMap style.escape ++ '"' :: rest) = some (cs.map Char.toNat, rest) := by
  induction cs with
  | nil => simp [stringUnits]
  | cons c cs ih =>
    rw [List.flatMap_cons, List.append_assoc, style.read, ih]
    rfl

/-- No character is a surrogate. -/
theorem not_surrogate (c : Char) : isHigh c.toNat = false ∧ isLow c.toNat = false := by
  have hvalid := c.valid
  unfold isHigh isLow
  simp only [UInt32.isValidChar, Nat.isValidChar] at hvalid
  have hval : c.toNat = c.val.toNat := rfl
  rw [hval]
  constructor
  · simp only [Bool.and_eq_false_iff, decide_eq_false_iff_not]
    omega
  · simp only [Bool.and_eq_false_iff, decide_eq_false_iff_not]
    omega

theorem combine_toNat (cs : List Char) : combine (cs.map Char.toNat) = cs := by
  induction cs with
  | nil => rfl
  | cons c cs ih =>
    obtain ⟨hhigh, hlow⟩ := not_surrogate c
    cases cs with
    | nil =>
      simp only [List.map_cons, List.map_nil, combine, hhigh, hlow, Bool.or_self, Bool.false_eq_true,
        if_false, Char.ofNat_toNat]
    | cons d cs =>
      rw [List.map_cons] at ih
      simp only [List.map_cons, combine, hhigh, hlow, Bool.or_self, Bool.false_and, Bool.false_eq_true,
        if_false, Char.ofNat_toNat]
      rw [ih]

/-- **A printed string is read as it was.** -/
theorem string_print (style : Style) (s : String) (rest : List Char) :
    string (s.toList.flatMap style.escape ++ '"' :: rest) = some (s, rest) := by
  unfold string
  rw [stringUnits_print, Option.map_some]
  show some (String.ofList (combine (s.toList.map Char.toNat)), rest) = _
  rw [combine_toNat, String.ofList_toList]

/-! ### Numbers -/

def printInt (n : Int) : List Char :=
  if n < 0 then '-' :: Nat.toDigits 10 n.natAbs else Nat.toDigits 10 n.natAbs

/-- An exponent, if there is one. -/
def printExponent (e : Int) : List Char :=
  if e = 0 then []
  else if e < 0 then 'e' :: '-' :: Nat.toDigits 10 e.natAbs
  else 'e' :: '+' :: Nat.toDigits 10 e.natAbs

def Number.print (n : Number) : List Char := printInt n.mantissa ++ printExponent n.exponent

/-- What may follow a number: nothing that would go on with it. -/
def Ends (rest : List Char) : Prop :=
  ∀ c ∈ rest.head?, c.isDigit = false ∧ c ≠ '.' ∧ c ≠ 'e' ∧ c ≠ 'E'

theorem takeWhile_toDigits (n : ℕ) {rest : List Char} (h : ∀ c ∈ rest.head?, c.isDigit = false) :
    (Nat.toDigits 10 n ++ rest).takeWhile Char.isDigit = Nat.toDigits 10 n ∧
      (Nat.toDigits 10 n ++ rest).dropWhile Char.isDigit = rest := by
  have hdigits : ∀ c ∈ Nat.toDigits 10 n, c.isDigit = true := fun c hc =>
    Nat.isDigit_of_mem_toDigits (by decide) (by decide) hc
  constructor
  · rw [List.takeWhile_append_of_pos hdigits]
    cases rest with
    | nil => rw [List.takeWhile_nil, List.append_nil]
    | cons c rest => rw [List.takeWhile_cons_of_neg (by rw [h c rfl]; decide), List.append_nil]
  · rw [List.dropWhile_append_of_pos hdigits]
    cases rest with
    | nil => rfl
    | cons c rest => rw [List.dropWhile_cons_of_neg (by rw [h c rfl]; decide)]

/-- Only zero begins with a zero. -/
theorem head?_toDigits {n : ℕ} (h : (Nat.toDigits 10 n).head? = some '0') : n = 0 := by
  induction n using Nat.strongRecOn with
  | ind n ih =>
    by_cases hn : n < 10
    · rw [Nat.toDigits_of_lt_base hn] at h
      have hall : ∀ k : Fin 10, k.val.digitChar = '0' → k.val = 0 := by decide
      exact hall ⟨n, hn⟩ (Option.some.inj h)
    · rw [Nat.toDigits_of_base_le (by decide) (by omega)] at h
      obtain ⟨c, l, hl⟩ := List.exists_cons_of_ne_nil (Nat.toDigits_ne_nil (n := n / 10) (b := 10))
      rw [hl, List.cons_append, List.head?_cons] at h
      have hzero := ih (n / 10) (by omega) (by rw [hl, List.head?_cons, h])
      omega

/-- The integer part of a printed number. -/
theorem toDigits_int (n : ℕ) : ¬ ((Nat.toDigits 10 n).isEmpty ∨
    (Nat.toDigits 10 n).head? = some '0' ∧ 1 < (Nat.toDigits 10 n).length) := by
  rintro (hempty | ⟨hhead, hlength⟩)
  · exact Nat.toDigits_ne_nil (List.isEmpty_iff.mp hempty)
  · rw [head?_toDigits hhead, Nat.toDigits_zero] at hlength
    exact absurd hlength (by decide)

theorem fraction_of_ends {rest : List Char} (h : ∀ c ∈ rest.head?, c ≠ '.') :
    fraction rest = some ([], rest) := by
  unfold fraction
  split
  · exact absurd rfl (h '.' rfl)
  · rfl

theorem exponent_of_ends {rest : List Char} (h : ∀ c ∈ rest.head?, c ≠ 'e' ∧ c ≠ 'E') :
    exponent rest = some (0, rest) := by
  unfold exponent
  split
  case h_7 => rfl
  all_goals
    first
    | exact absurd rfl (h 'e' rfl).1
    | exact absurd rfl (h 'E' rfl).2

theorem exponentDigits_print (negative : Bool) (n : ℕ) {rest : List Char} (h : Ends rest) :
    exponentDigits negative (Nat.toDigits 10 n ++ rest) =
      some (if negative then -(n : Int) else n, rest) := by
  obtain ⟨htake, hdrop⟩ := takeWhile_toDigits n fun c hc => (h c hc).1
  have hne : ¬ (Nat.toDigits 10 n).isEmpty = true := fun hempty =>
    Nat.toDigits_ne_nil (List.isEmpty_iff.mp hempty)
  unfold exponentDigits
  rw [htake, hdrop, if_neg hne, Nat.ofDigitChars_ten_toDigits]

/-- What is printed after the mantissa. -/
theorem exponent_print (e : Int) {rest : List Char} (h : Ends rest) :
    exponent (printExponent e ++ rest) = some (e, rest) ∧
      ∀ c ∈ (printExponent e ++ rest).head?, c.isDigit = false ∧ c ≠ '.' := by
  unfold printExponent
  split_ifs with hzero hneg
  · rw [List.nil_append, hzero]
    exact ⟨exponent_of_ends fun c hc => (h c hc).2.2, fun c hc => ⟨(h c hc).1, (h c hc).2.1⟩⟩
  · constructor
    · show exponentDigits true (Nat.toDigits 10 e.natAbs ++ rest) = _
      rw [exponentDigits_print true _ h, if_pos rfl]
      congr 2
      omega
    · intro c hc
      obtain rfl : 'e' = c := Option.some.inj hc
      decide
  · constructor
    · show exponentDigits false (Nat.toDigits 10 e.natAbs ++ rest) = _
      rw [exponentDigits_print false _ h, if_neg Bool.false_ne_true]
      congr 2
      omega
    · intro c hc
      obtain rfl : 'e' = c := Option.some.inj hc
      decide

theorem unsigned_print (negative : Bool) (m : ℕ) (e : Int) {rest : List Char} (h : Ends rest) :
    unsigned negative (Nat.toDigits 10 m ++ (printExponent e ++ rest)) =
      some (⟨if negative then -(m : Int) else m, e⟩, rest) := by
  obtain ⟨hexponent, hhead⟩ := exponent_print e h
  obtain ⟨htake, hdrop⟩ := takeWhile_toDigits m fun c hc => (hhead c hc).1
  unfold unsigned
  simp only [htake, hdrop]
  rw [if_neg (toDigits_int m), fraction_of_ends fun c hc => (hhead c hc).2, Option.bind_some]
  simp only [hexponent, Option.map_some, List.append_nil, Nat.ofDigitChars_ten_toDigits, List.length_nil,
    Int.natCast_zero, Int.sub_zero]

/-- **A printed number is read as it was.** -/
theorem number_print (n : Number) {rest : List Char} (h : Ends rest) :
    number (n.print ++ rest) = some (n, rest) := by
  obtain ⟨m, e⟩ := n
  unfold Number.print printInt
  rw [List.append_assoc]
  by_cases hneg : m < 0
  · rw [if_pos hneg]
    show unsigned true (Nat.toDigits 10 m.natAbs ++ (printExponent e ++ rest)) = _
    rw [unsigned_print true _ e h, if_pos rfl]
    congr 3
    omega
  · rw [if_neg hneg]
    obtain ⟨c, l, hl⟩ := List.exists_cons_of_ne_nil (Nat.toDigits_ne_nil (n := m.natAbs) (b := 10))
    have hdash : c ≠ '-' := by
      rintro rfl
      have hdigit := Nat.isDigit_of_mem_toDigits (b := 10) (n := m.natAbs) (by decide) (by decide)
        (hl ▸ List.mem_cons_self)
      exact absurd hdigit (by decide)
    have hunsigned := unsigned_print false m.natAbs e h
    rw [hl, List.cons_append] at hunsigned ⊢
    unfold number
    split
    · rename_i heq
      exact absurd (List.cons.inj heq).1 hdash
    · rw [hunsigned, if_neg Bool.false_ne_true]
      congr 3
      omega

/-! ### Values -/

mutual

def Value.print (style : Style) : Value → List Char
  | .null => "null".toList
  | .bool true => "true".toList
  | .bool false => "false".toList
  | .num n => n.print
  | .str s => printString style s
  | .arr values => '[' :: (printElements style values ++ [']'])
  | .obj members => '{' :: (printMembers style members ++ ['}'])

def printElements (style : Style) : List Value → List Char
  | [] => []
  | [v] => v.print style
  | v :: vs => v.print style ++ ',' :: printElements style vs

def printMembers (style : Style) : List (String × Value) → List Char
  | [] => []
  | [(name, v)] => printString style name ++ ':' :: v.print style
  | (name, v) :: ms => printString style name ++ ':' :: (v.print style ++ ',' :: printMembers style ms)

end

/-! ### Reading printed values -/

mutual

/-- How much fuel the parser needs for a value. -/
def Value.size : Value → ℕ
  | .null | .bool _ | .num _ | .str _ => 1
  | .arr values => sizeElements values + 1
  | .obj members => sizeMembers members + 1

def sizeElements : List Value → ℕ
  | [] => 0
  | v :: vs => v.size + sizeElements vs + 1

def sizeMembers : List (String × Value) → ℕ
  | [] => 0
  | (_, v) :: ms => v.size + sizeMembers ms + 1

end

theorem number_head (n : Number) : ∃ c cs, n.print = c :: cs ∧ (c = '-' ∨ c.isDigit = true) := by
  unfold Number.print printInt
  split_ifs
  · exact ⟨'-', _, rfl, .inl rfl⟩
  · obtain ⟨c, l, hl⟩ :=
      List.exists_cons_of_ne_nil (Nat.toDigits_ne_nil (n := n.mantissa.natAbs) (b := 10))
    rw [hl]
    exact ⟨c, _, rfl, .inr (Nat.isDigit_of_mem_toDigits (b := 10) (n := n.mantissa.natAbs) (by decide)
      (by decide) (hl ▸ List.mem_cons_self))⟩

/-- A printed value begins with neither white space nor the end of an array. -/
theorem print_head (style : Style) (v : Value) :
    ∃ c cs, v.print style = c :: cs ∧ isWs c = false ∧ c ≠ ']' := by
  cases v with
  | null => exact ⟨'n', _, rfl, by decide, by decide⟩
  | bool b => cases b <;> exact ⟨_, _, rfl, by decide, by decide⟩
  | num n =>
    obtain ⟨c, cs, hcs, hc⟩ := number_head n
    refine ⟨c, cs, hcs, ?_, ?_⟩
    · rcases hc with rfl | hdigit
      · decide
      · by_contra hws
        rw [Bool.not_eq_false] at hws
        simp only [isWs, Bool.or_eq_true, decide_eq_true_eq] at hws
        rcases hws with ((rfl | rfl) | rfl) | rfl <;> exact absurd hdigit (by decide)
    · rintro rfl
      rcases hc with heq | hdigit
      · cases heq
      · exact absurd hdigit (by decide)
  | str s => exact ⟨'"', _, rfl, by decide, by decide⟩
  | arr values => exact ⟨'[', _, rfl, by decide, by decide⟩
  | obj members => exact ⟨'{', _, rfl, by decide, by decide⟩

theorem printElements_cons (style : Style) (v : Value) (vs : List Value) : printElements style (v :: vs) =
    v.print style ++ if vs.isEmpty then [] else ',' :: printElements style vs := by
  cases vs with
  | nil => exact (List.append_nil _).symm
  | cons w vs => rfl

theorem printMembers_cons (style : Style) (name : String) (v : Value) (ms : List (String × Value)) :
    printMembers style ((name, v) :: ms) = printString style name ++ ':' ::
      (v.print style ++ if ms.isEmpty then [] else ',' :: printMembers style ms) := by
  cases ms with
  | nil =>
    rw [List.isEmpty_nil, if_pos rfl, List.append_nil]
    rfl
  | cons m ms => rfl

theorem skipWs_print (style : Style) (v : Value) (rest : List Char) :
    skipWs (v.print style ++ rest) = v.print style ++ rest := by
  obtain ⟨c, cs, hcs, hws, -⟩ := print_head style v
  rw [hcs, List.cons_append, skipWs_cons hws]

/-- The end of an element or a member is no part of a number. -/
theorem ends_cons {c : Char} (h : c.isDigit = false ∧ c ≠ '.' ∧ c ≠ 'e' ∧ c ≠ 'E') (rest : List Char) :
    Ends (c :: rest) := by
  intro d hd
  obtain rfl : c = d := Option.some.inj hd
  exact h

theorem value_number (style : Style) (x : Number) (n : ℕ) {rest : List Char} (h : Ends rest) :
    value (n + 1) ((Value.num x).print style ++ rest) = some (.num x, rest) := by
  obtain ⟨c, cs, hcs, hc⟩ := number_head x
  rw [value, skipWs_print]
  have hprint : (Value.num x).print style = c :: cs := hcs
  have hnumber := number_print x h
  -- the text begins like no other value
  have hne : ∀ d, d.isDigit = false → d ≠ '-' → c ≠ d := by
    rintro d hdigit hdash rfl
    rcases hc with rfl | htrue
    · exact hdash rfl
    · rw [hdigit] at htrue
      cases htrue
  rw [hprint]
  rw [hcs] at hnumber
  split
  case h_7 =>
    rw [hnumber]
    rfl
  all_goals
    rename_i heq
    exact absurd (List.cons.inj heq).1 (hne _ (by decide) (by decide))

/-- What follows an opening bracket that is not closed at once. -/
theorem value_bracket {c : Char} (hws : isWs c = false) (hc : c ≠ ']') (n : ℕ) (cs : List Char) :
    value (n + 1) ('[' :: c :: cs) = (elements n (c :: cs)).map fun p => (.arr p.1, p.2) := by
  rw [value, skipWs_cons (by decide)]
  simp only [skipWs_cons hws]
  split
  · rename_i heq
    exact absurd (List.cons.inj heq).1 hc
  · rfl

theorem value_array {style : Style} {vs : List Value} {n : ℕ} {rest : List Char}
    (helements : vs ≠ [] →
      elements n (printElements style vs ++ ']' :: rest) = some (vs, rest)) :
    value (n + 1) ((Value.arr vs).print style ++ rest) = some (.arr vs, rest) := by
  have hprint : (Value.arr vs).print style ++ rest = '[' :: (printElements style vs ++ ']' :: rest) := by
    simp [Value.print]
  rw [hprint]
  cases vs with
  | nil => rfl
  | cons v vs =>
    obtain ⟨c, cs, hcs, hws, hbracket⟩ := print_head style v
    have hread := helements (List.cons_ne_nil v vs)
    rw [printElements_cons, hcs, List.cons_append, List.cons_append] at hread ⊢
    rw [value_bracket hws hbracket, hread]
    rfl

/-- What follows an opening brace that is not closed at once. -/
theorem value_brace {c : Char} (hws : isWs c = false) (hc : c ≠ '}') (n : ℕ) (cs : List Char) :
    value (n + 1) ('{' :: c :: cs) = (objectMembers n (c :: cs)).map fun p => (.obj p.1, p.2) := by
  rw [value, skipWs_cons (by decide)]
  simp only [skipWs_cons hws]
  split
  · rename_i heq
    exact absurd (List.cons.inj heq).1 hc
  · rfl

theorem value_object {style : Style} {ms : List (String × Value)} {n : ℕ} {rest : List Char}
    (hmembers : ms ≠ [] →
      objectMembers n (printMembers style ms ++ '}' :: rest) = some (ms, rest)) :
    value (n + 1) ((Value.obj ms).print style ++ rest) = some (.obj ms, rest) := by
  have hprint : (Value.obj ms).print style ++ rest = '{' :: (printMembers style ms ++ '}' :: rest) := by
    simp [Value.print]
  rw [hprint]
  cases ms with
  | nil => rfl
  | cons m ms =>
    obtain ⟨name, v⟩ := m
    have hread := hmembers (List.cons_ne_nil _ ms)
    rw [printMembers_cons, printString, List.cons_append, List.cons_append] at hread ⊢
    rw [value_brace (by decide) (by decide), hread]
    rfl

mutual

/-- **A printed value is read as it was**, with what follows it left. -/
theorem value_print (style : Style) : ∀ (v : Value) (n : ℕ) (rest : List Char), v.size ≤ n → Ends rest →
    value n (v.print style ++ rest) = some (v, rest)
  | .null, n + 1, rest, _, _ => rfl
  | .bool true, n + 1, rest, _, _ => rfl
  | .bool false, n + 1, rest, _, _ => rfl
  | .num x, n + 1, rest, _, hrest => value_number style x n hrest
  | .str s, n + 1, rest, _, _ => by
    have hprint : (Value.str s).print style ++ rest =
        '"' :: (s.toList.flatMap style.escape ++ '"' :: rest) := by
      simp [Value.print, printString]
    rw [hprint, value, skipWs_cons (by decide)]
    show (string (s.toList.flatMap style.escape ++ '"' :: rest)).map _ = _
    rw [string_print]
    rfl
  | .arr vs, n + 1, rest, hn, _ => by
    rw [Value.size] at hn
    exact value_array fun hne => elements_print style vs n rest hne (by omega)
  | .obj ms, n + 1, rest, hn, _ => by
    rw [Value.size] at hn
    exact value_object fun hne => members_print style ms n rest hne (by omega)
  | v, 0, rest, hn, _ => by
    cases v <;> simp [Value.size] at hn

theorem elements_print (style : Style) : ∀ (vs : List Value) (n : ℕ) (rest : List Char), vs ≠ [] →
    sizeElements vs ≤ n → elements n (printElements style vs ++ ']' :: rest) = some (vs, rest)
  | [], _, _, hne, _ => absurd rfl hne
  | v :: vs, 0, _, _, hn => by simp [sizeElements] at hn
  | v :: vs, n + 1, rest, _, hn => by
    rw [sizeElements] at hn
    rw [printElements_cons, List.append_assoc, elements]
    cases vs with
    | nil =>
      show (value n (v.print style ++ ']' :: rest)).bind _ = _
      rw [value_print style v n _ (by omega) (ends_cons (by decide) rest), Option.bind_some]
      simp only [skipWs_cons (c := ']') rfl]
    | cons w vs =>
      show (value n (v.print style ++ ',' :: (printElements style (w :: vs) ++ ']' :: rest))).bind _ = _
      rw [value_print style v n _ (by omega) (ends_cons (by decide) _), Option.bind_some]
      simp only [skipWs_cons (c := ',') rfl]
      rw [elements_print style (w :: vs) n rest (List.cons_ne_nil w vs) (by omega)]
      rfl

theorem members_print (style : Style) : ∀ (ms : List (String × Value)) (n : ℕ) (rest : List Char),
    ms ≠ [] → sizeMembers ms ≤ n →
    objectMembers n (printMembers style ms ++ '}' :: rest) = some (ms, rest)
  | [], _, _, hne, _ => absurd rfl hne
  | (_, _) :: _, 0, _, _, hn => by simp [sizeMembers] at hn
  | (name, v) :: ms, n + 1, rest, _, hn => by
    rw [sizeMembers] at hn
    -- the name, and what follows it
    have hname : ∀ cs, objectMembers (n + 1) (printString style name ++ ':' :: cs) =
        (value n cs).bind fun (v, cs) =>
          match skipWs cs with
          | ',' :: cs => (objectMembers n cs).map fun (ms, cs) => ((name, v) :: ms, cs)
          | '}' :: cs => some ([(name, v)], cs)
          | _ => none := by
      intro cs
      have hprint : printString style name ++ ':' :: cs =
          '"' :: (name.toList.flatMap style.escape ++ '"' :: ':' :: cs) := by
        simp [printString]
      rw [hprint, objectMembers, skipWs_cons (by decide)]
      show (string (name.toList.flatMap style.escape ++ '"' :: ':' :: cs)).bind _ = _
      rw [string_print, Option.bind_some]
      rfl
    rw [printMembers_cons, List.append_assoc, List.cons_append, List.append_assoc, hname]
    cases ms with
    | nil =>
      show (value n (v.print style ++ '}' :: rest)).bind _ = _
      rw [value_print style v n _ (by omega) (ends_cons (by decide) rest), Option.bind_some]
      simp only [skipWs_cons (c := '}') rfl]
    | cons m ms =>
      show (value n (v.print style ++ ',' :: (printMembers style (m :: ms) ++ '}' :: rest))).bind _ = _
      rw [value_print style v n _ (by omega) (ends_cons (by decide) _), Option.bind_some]
      simp only [skipWs_cons (c := ',') rfl]
      rw [members_print style (m :: ms) n rest (List.cons_ne_nil m ms) (by omega)]
      rfl

end

/-! ### Texts -/

theorem one_le_length_number (n : Number) : 1 ≤ n.print.length := by
  obtain ⟨c, cs, hcs, -⟩ := number_head n
  rw [hcs, List.length_cons]
  omega

mutual

/-- A printed value is long enough for the fuel that it needs. -/
theorem size_le (style : Style) : ∀ v : Value, v.size ≤ (v.print style).length
  | .null => Nat.le_add_left 1 3
  | .bool true => Nat.le_add_left 1 3
  | .bool false => Nat.le_add_left 1 4
  | .num n => one_le_length_number n
  | .str s => Nat.le_add_left ..
  | .arr vs => by
    have hvs := sizeElements_le style vs
    simp only [Value.size, Value.print, List.length_cons, List.length_append, List.length_nil]
    omega
  | .obj ms => by
    have hms := sizeMembers_le style ms
    simp only [Value.size, Value.print, List.length_cons, List.length_append, List.length_nil]
    omega

theorem sizeElements_le (style : Style) : ∀ vs : List Value,
    sizeElements vs ≤ (printElements style vs).length + 1
  | [] => Nat.zero_le _
  | v :: vs => by
    have hv := size_le style v
    have hvs := sizeElements_le style vs
    rw [sizeElements, printElements_cons, List.length_append]
    cases vs with
    | nil =>
      simp only [sizeElements, List.isEmpty_nil, if_true, List.length_nil]
      omega
    | cons w vs =>
      rw [List.isEmpty_cons, if_neg Bool.false_ne_true, List.length_cons]
      omega

theorem sizeMembers_le (style : Style) : ∀ ms : List (String × Value),
    sizeMembers ms ≤ (printMembers style ms).length + 1
  | [] => Nat.zero_le _
  | (name, v) :: ms => by
    have hv := size_le style v
    have hms := sizeMembers_le style ms
    rw [sizeMembers, printMembers_cons, List.length_append, List.length_cons, List.length_append]
    cases ms with
    | nil =>
      simp only [sizeMembers, List.isEmpty_nil, if_true, List.length_nil]
      omega
    | cons m ms =>
      rw [List.isEmpty_cons, if_neg Bool.false_ne_true, List.length_cons]
      omega

end

/-- A printed text, with white space after it. -/
def print (style : Style) (v : Value) (ws : List Char) : String := String.ofList (v.print style ++ ws)

/-- **What is printed is parsed to the value that was printed.** -/
theorem parse_print (style : Style) (v : Value) {ws : List Char} (hws : ws.all isWs = true) :
    parse (print style v ws) = some v := by
  have hskip : skipWs ws = [] := List.dropWhile_eq_nil_iff.mpr (List.all_eq_true.mp hws)
  have hends : Ends ws := by
    intro c hc
    have hmem : c ∈ ws := List.mem_of_mem_head? hc
    have hc' := List.all_eq_true.mp hws c hmem
    simp only [isWs, Bool.or_eq_true, decide_eq_true_eq] at hc'
    rcases hc' with ((rfl | rfl) | rfl) | rfl <;> decide
  have hsize := size_le style v
  unfold parse print
  rw [String.toList_ofList, value_print style v _ ws (by rw [List.length_append]; omega) hends,
    Option.bind_some]
  simp only [hskip, List.isEmpty_nil, if_true]

end Json
