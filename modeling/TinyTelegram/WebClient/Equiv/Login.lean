import Mathlib
import TinyTelegram.Gateway.Query
import TinyTelegram.WebClient.Login

/-!
# The user of a page

The user id that a page logs in with goes through the URL of its WebSocket: `encodeURIComponent` escapes it, the
browser escapes what is left in the query, and the gateway undoes both at once (`userID_wsUrl`).  So two pages
are the same user for a gateway exactly if they have logged in with the same id (`same_user_iff`).

The URL of the gateway, which the user types as well, must not have a query or a fragment of its own.
-/

namespace TinyTelegram.WebClient

namespace Login

open Gateway.Query (cut queryUnescape setting? parseQuery userID)
open Percent (utf8 encode)

/-! ### The characters of the URL -/

/-- What holds of 128 characters holds of all of ASCII. -/
theorem ascii_forall {P : Char → Prop} (h : ∀ k : Fin 0x80, P (Char.ofNat k)) {c : Char}
    (hc : c.toNat < 0x80) : P c := by
  have hP := h ⟨c.toNat, hc⟩
  simpa using hP

theorem toNat_lt_of_unescaped {c : Char} (h : unescaped c = true) : c.toNat < 0x80 := by
  unfold unescaped at h
  rw [Bool.or_eq_true] at h
  rcases h with h | h
  · simp only [Char.isAlphanum, Char.isAlpha, Char.isUpper, Char.isLower, Char.isDigit, Bool.or_eq_true,
      Bool.and_eq_true, decide_eq_true_eq, UInt32.le_iff_toNat_le] at h
    have hc : c.val.toNat = c.toNat := rfl
    have hZ : 'Z'.val.toNat = 0x5a := rfl
    have hz : 'z'.val.toNat = 0x7a := rfl
    have hnine : '9'.val.toNat = 0x39 := rfl
    omega
  · have hall : ∀ c ∈ "-_.!~*'()".toList, c.toNat < 0x80 := by simp
    exact hall c (by simpa using h)

/-- Characters that mean nothing in a URL, and nothing to a gateway that reads its query. -/
structure Inert (c : Char) : Prop where
  ascii : c.toNat < 0x80
  space : isSpace c = false
  noBreak : isBreak c = false
  hash : c ≠ '#'
  question : c ≠ '?'
  plus : c ≠ '+'
  ampersand : c ≠ '&'
  semicolon : c ≠ ';'
  equals : c ≠ '='

instance (c : Char) : Decidable (Inert c) :=
  decidable_of_iff (c.toNat < 0x80 ∧ isSpace c = false ∧ isBreak c = false ∧ c ≠ '#' ∧ c ≠ '?' ∧ c ≠ '+' ∧
      c ≠ '&' ∧ c ≠ ';' ∧ c ≠ '=')
    ⟨fun ⟨h1, h2, h3, h4, h5, h6, h7, h8, h9⟩ => ⟨h1, h2, h3, h4, h5, h6, h7, h8, h9⟩,
      fun ⟨h1, h2, h3, h4, h5, h6, h7, h8, h9⟩ => ⟨h1, h2, h3, h4, h5, h6, h7, h8, h9⟩⟩

theorem inert_unescaped {c : Char} (h : unescaped c = true) : Inert c :=
  ascii_forall (P := fun c => unescaped c = true → Inert c) (by decide) (toNat_lt_of_unescaped h) h

/-- A component that is escaped is inert. -/
theorem inert_encode {safe : Char → Bool} (hsafe : ∀ c, safe c = true → unescaped c = true) {cs : List Char}
    {c : Char} (hc : c ∈ encode safe cs) : Inert c := by
  have hdigit : ∀ n : Fin 16, Inert (Percent.hexDigit n) := by decide
  rcases Percent.mem_encode hc with h | rfl | ⟨n, hn, rfl⟩
  · exact inert_unescaped (hsafe c h)
  · decide
  · exact hdigit ⟨n, hn⟩

/-! ### The query that the browser sends -/

/-- What the URL ends with stays, if none of it is white space. -/
theorem strip_append {cs cs' : List Char} (hne : cs' ≠ []) (hspace : ∀ c ∈ cs', isSpace c = false) :
    strip (cs ++ cs') = (cs.dropWhile isSpace ++ cs').filter fun c => !isBreak c := by
  have hleft : (cs ++ cs').dropWhile isSpace = cs.dropWhile isSpace ++ cs' := by
    rw [List.dropWhile_append]
    split
    · rename_i hempty
      rw [List.isEmpty_iff.mp hempty, List.nil_append, List.dropWhile_eq_self_iff]
      intro hpos
      simpa using hspace _ (List.getElem_mem hpos)
    · rfl
  have hright : (cs.dropWhile isSpace ++ cs').rdropWhile isSpace = cs.dropWhile isSpace ++ cs' := by
    rw [List.rdropWhile_eq_self_iff]
    intro hall
    rw [List.getLast_append_of_ne_nil _ hne]
    simpa using hspace _ (List.getLast_mem hne)
  unfold strip
  rw [hleft, hright]

/-- The characters that neither step escapes. -/
def plain (c : Char) : Bool := unescaped c && querySafe c

/-- **The query of the URL** is that of the page's setting, escaped once. -/
theorem query?_wsUrl {gatewayUrl : String} (h : ∀ c ∈ gatewayUrl.toList, c ≠ '?' ∧ c ≠ '#')
    (userId : String) :
    query? (wsUrl gatewayUrl userId) = some ("user_id=".toList ++ encode plain userId.toList) := by
  have hkey : ∀ c ∈ "?user_id=".toList, isSpace c = false ∧ isBreak c = false ∧ c ≠ '#' := by
    simp [isSpace, isBreak]
  have hcomponent : ∀ c ∈ encode unescaped userId.toList, Inert c := fun c hc =>
    inert_encode (fun _ hc => hc) hc
  have htext : (wsUrl gatewayUrl userId).toList =
      gatewayUrl.toList ++ ("?user_id=".toList ++ encode unescaped userId.toList) := by
    simp [wsUrl, encodeURIComponent]
  have hstrip : strip (wsUrl gatewayUrl userId).toList =
      (gatewayUrl.toList.dropWhile isSpace).filter (fun c => !isBreak c) ++
        ("?user_id=".toList ++ encode unescaped userId.toList) := by
    rw [htext, strip_append (by simp), List.filter_append]
    · congr 1
      rw [List.filter_eq_self]
      intro c hc
      rcases List.mem_append.mp hc with hc | hc
      · rw [(hkey c hc).2.1]
        rfl
      · rw [(hcomponent c hc).noBreak]
        rfl
    · intro c hc
      rcases List.mem_append.mp hc with hc | hc
      · exact (hkey c hc).1
      · exact (hcomponent c hc).space
  -- what is left of the URL of the gateway has no query and no fragment either
  have hleft : ∀ c ∈ (gatewayUrl.toList.dropWhile isSpace).filter (fun c => !isBreak c), c ≠ '?' ∧ c ≠ '#' :=
    fun c hc => h c ((List.dropWhile_suffix _).mem (List.mem_of_mem_filter hc))
  have hfragment : (strip (wsUrl gatewayUrl userId).toList).takeWhile (· ≠ '#') =
      strip (wsUrl gatewayUrl userId).toList := by
    rw [List.takeWhile_eq_self_iff, hstrip]
    intro c hc
    rw [decide_eq_true_eq]
    rcases List.mem_append.mp hc with hc | hc
    · exact (hleft c hc).2
    · rcases List.mem_append.mp hc with hc | hc
      · exact (hkey c hc).2.2
      · exact (hcomponent c hc).hash
  have hquery : (strip (wsUrl gatewayUrl userId).toList).dropWhile (· ≠ '?') =
      '?' :: ("user_id=".toList ++ encode unescaped userId.toList) := by
    rw [hstrip, List.dropWhile_append_of_pos fun c hc => by simpa using (hleft c hc).1]
    rfl
  unfold query?
  rw [hfragment, hquery]
  show some (encode querySafe ("user_id=".toList ++ encode unescaped userId.toList)) = _
  rw [Percent.encode_append, Percent.encode_eq_self (List.all_eq_true.mp (by decide)),
    Percent.encode_encode (by decide)]
  · rfl
  · have hdigit : ∀ n : Fin 16, querySafe (Percent.hexDigit n) = true := by decide
    exact fun n hn => hdigit ⟨n, hn⟩

/-! ### The user that the gateway reads -/

/-- The bytes of an inert text are no separators. -/
theorem byte_ne {cs : List Char} (h : ∀ c ∈ cs, Inert c) {b : UInt8} (hb : b ∈ utf8 cs) :
    b ≠ 0x26 ∧ b ≠ 0x3b ∧ b ≠ 0x3d ∧ b ≠ 0x2b := by
  obtain ⟨c, hc, hbyte⟩ := Percent.mem_utf8_ascii (fun c hc => (h c hc).ascii) hb
  have hne : ∀ d : Char, c ≠ d → b.toNat ≠ d.toNat := fun d hd heq =>
    hd (Char.toNat_inj.mp (hbyte.symm.trans heq))
  refine ⟨?_, ?_, ?_, ?_⟩
  · rintro rfl
    exact hne '&' (h c hc).ampersand rfl
  · rintro rfl
    exact hne ';' (h c hc).semicolon rfl
  · rintro rfl
    exact hne '=' (h c hc).equals rfl
  · rintro rfl
    exact hne '+' (h c hc).plus rfl

theorem cut_of_notMem {s s' : List UInt8} {sep : UInt8} (h : sep ∉ s) : cut (s ++ sep :: s') sep = (s, s') := by
  have hall : ∀ b ∈ s, decide (b ≠ sep) = true := fun b hb => by
    rw [decide_eq_true_eq]
    exact fun heq => h (heq ▸ hb)
  unfold cut
  rw [List.takeWhile_append_of_pos hall, List.dropWhile_append_of_pos hall]
  simp

theorem cut_eq_self {s : List UInt8} {sep : UInt8} (h : sep ∉ s) : cut s sep = (s, []) := by
  have hall : ∀ b ∈ s, decide (b ≠ sep) = true := fun b hb => by
    rw [decide_eq_true_eq]
    exact fun heq => h (heq ▸ hb)
  unfold cut
  rw [List.takeWhile_eq_self_iff.mpr hall, List.dropWhile_eq_nil_iff.mpr hall]
  rfl

/-- What the gateway finds in a query of one setting that has no separators in it. -/
theorem parseQuery_setting {key value : List UInt8}
    (hkey : ∀ b ∈ key, b ≠ 0x26 ∧ b ≠ 0x3b ∧ b ≠ 0x3d) (hvalue : ∀ b ∈ value, b ≠ 0x26 ∧ b ≠ 0x3b) :
    parseQuery (key ++ 0x3d :: value) =
      ((queryUnescape key).bind fun key => (queryUnescape value).map fun value => (key, value)).toList := by
  have hne : key ++ 0x3d :: value ≠ [] := by simp
  have hmem : ∀ b ∈ key ++ 0x3d :: value, b ≠ 0x26 ∧ b ≠ 0x3b := by
    intro b hb
    rcases List.mem_append.mp hb with hb | hb
    · exact ⟨(hkey b hb).1, (hkey b hb).2.1⟩
    · rcases List.mem_cons.mp hb with rfl | hb
      · decide
      · exact hvalue b hb
  have hcut : cut (key ++ 0x3d :: value) 0x3d = (key, value) :=
    cut_of_notMem fun hb => (hkey _ hb).2.2 rfl
  have hall : cut (key ++ 0x3d :: value) 0x26 = (key ++ 0x3d :: value, []) :=
    cut_eq_self fun hb => (hmem _ hb).1 rfl
  have hsetting : setting? (key ++ 0x3d :: value) =
      (queryUnescape key).bind fun key => (queryUnescape value).map fun value => (key, value) := by
    unfold setting?
    rw [if_neg (not_or.mpr ⟨fun hb => (hmem _ hb).2 rfl, hne⟩), hcut]
  rw [parseQuery, if_neg hne, hall, hsetting]
  show _ ++ parseQuery [] = _
  rw [parseQuery, if_pos rfl, List.append_nil]

/-- The gateway takes these characters for themselves. -/
theorem plain_plain : Percent.Plain (fun b => if b = 0x2b then 0x20 else b) plain := by
  intro c hc
  have hinert := inert_unescaped (Bool.and_eq_true_iff.mp hc).1
  have hpercent : ∀ c, unescaped c = true → c ≠ '%' := by
    rintro c hc rfl
    exact absurd hc (by decide)
  refine ⟨hinert.ascii, hpercent c (Bool.and_eq_true_iff.mp hc).1, if_neg ?_⟩
  have hbyte : UInt8.ofNat c.toNat ∈ utf8 [c] := by
    rw [Percent.utf8_cons_ascii hinert.ascii]
    exact List.mem_cons_self
  exact (byte_ne (fun d hd => by rwa [List.mem_singleton.mp hd]) hbyte).2.2.2

/-- **The gateway reads the user id that the page has logged in with**, whatever is in it, and refuses the
request if it is empty. -/
theorem userID_wsUrl {gatewayUrl : String} (h : ∀ c ∈ gatewayUrl.toList, c ≠ '?' ∧ c ≠ '#')
    (userId : String) : (query? (wsUrl gatewayUrl userId)).map (fun query => userID (utf8 query)) =
      some (if userId = "" then .error (400, "user_id required") else .ok (utf8 userId.toList)) := by
  have hbytes : utf8 ("user_id=".toList ++ encode plain userId.toList) =
      utf8 "user_id".toList ++ 0x3d :: utf8 (encode plain userId.toList) := by
    rw [Percent.utf8_append]
    rfl
  have hkey : ∀ b ∈ utf8 "user_id".toList, b ≠ 0x26 ∧ b ≠ 0x3b ∧ b ≠ 0x3d :=
    List.all_iff_forall_prop.mp (by decide)
  have hvalue : ∀ b ∈ utf8 (encode plain userId.toList), b ≠ 0x26 ∧ b ≠ 0x3b := by
    intro b hb
    have hinert : ∀ c ∈ encode plain userId.toList, Inert c := fun c hc =>
      inert_encode (fun _ hd => (Bool.and_eq_true_iff.mp hd).1) hc
    exact ⟨(byte_ne hinert hb).1, (byte_ne hinert hb).2.1⟩
  have hname : queryUnescape (utf8 "user_id".toList) = some (utf8 "user_id".toList) := by
    have hdecode := Percent.decode_encode plain_plain "user_id".toList
    rwa [Percent.encode_eq_self (List.all_eq_true.mp (by decide))] at hdecode
  have hparse : parseQuery (utf8 ("user_id=".toList ++ encode plain userId.toList)) =
      [(utf8 "user_id".toList, utf8 userId.toList)] := by
    rw [hbytes, parseQuery_setting hkey hvalue, hname, queryUnescape, Percent.decode_encode plain_plain]
    rfl
  have hget : Gateway.Query.get [(utf8 "user_id".toList, utf8 userId.toList)] "user_id" = utf8 userId.toList := by
    simp [Gateway.Query.get]
  have hempty : utf8 userId.toList = [] ↔ userId = "" := by
    rw [← Percent.utf8_nil, Percent.utf8_inj, String.toList_eq_nil_iff]
  rw [query?_wsUrl h, Option.map_some]
  unfold userID
  rw [hparse, hget]
  simp only [hempty]

/-- An id of separators, of an escape, and of characters outside ASCII. -/
theorem userID_wsUrl_trickyId : (query? (wsUrl "ws://localhost:8080/ws" "zoë&user_id=bob;+%41'?#")).map
      (fun query => userID (utf8 query)) = some (.ok (utf8 "zoë&user_id=bob;+%41'?#".toList)) := by
  rw [userID_wsUrl (List.all_iff_forall_prop.mp (by decide)), if_neg (by decide)]

/-- **Two pages are one user** for a gateway exactly if they have logged in with the same id. -/
theorem same_user_iff {gatewayUrl gatewayUrl' : String} (h : ∀ c ∈ gatewayUrl.toList, c ≠ '?' ∧ c ≠ '#')
    (h' : ∀ c ∈ gatewayUrl'.toList, c ≠ '?' ∧ c ≠ '#') (userId userId' : String) :
    (query? (wsUrl gatewayUrl userId)).map (fun query => userID (utf8 query)) =
      (query? (wsUrl gatewayUrl' userId')).map (fun query => userID (utf8 query)) ↔ userId = userId' := by
  rw [userID_wsUrl h, userID_wsUrl h']
  constructor
  · intro heq
    have hsame := Option.some.inj heq
    by_cases hempty : userId = ""
    · by_cases hempty' : userId' = ""
      · rw [hempty, hempty']
      · rw [if_pos hempty, if_neg hempty'] at hsame
        cases hsame
    · by_cases hempty' : userId' = ""
      · rw [if_neg hempty, if_pos hempty'] at hsame
        cases hsame
      · rw [if_neg hempty, if_neg hempty'] at hsame
        exact String.toList_inj.mp (Percent.utf8_inj.mp (Except.ok.inj hsame))
  · rintro rfl
    rfl

end Login

end TinyTelegram.WebClient
