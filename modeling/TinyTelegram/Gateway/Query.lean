import TinyTelegram.Lib.Percent

/-!
# The user of a request

`gateway/handler/websocket.go` takes the user of a connection from the query of the URL, with `net/url`.  A
string of Go is its bytes.
-/

namespace TinyTelegram.Gateway

namespace Query

/-- `strings.Cut` at a byte, which need not be there. -/
def cut (s : List UInt8) (sep : UInt8) : List UInt8 × List UInt8 :=
  (s.takeWhile (· ≠ sep), (s.dropWhile (· ≠ sep)).tail)

theorem length_cut_lt {s : List UInt8} (h : s ≠ []) (sep : UInt8) : (cut s sep).2.length < s.length := by
  have hdrop : (s.dropWhile (· ≠ sep)).length ≤ s.length := (List.dropWhile_suffix _).length_le
  have hpos : 0 < s.length := List.length_pos_iff.mpr h
  show (s.dropWhile (· ≠ sep)).tail.length < s.length
  rw [List.length_tail]
  omega

/-- `url.QueryUnescape`: a plus is a space. -/
def queryUnescape : List UInt8 → Option (List UInt8) :=
  Percent.decode fun b => if b = 0x2b then 0x20 else b

/-- A key and its value, unless there is a semicolon, or nothing, or an escape that is none. -/
def setting? (s : List UInt8) : Option (List UInt8 × List UInt8) :=
  if 0x3b ∈ s ∨ s = [] then none
  else
    (queryUnescape (cut s 0x3d).1).bind fun key =>
      (queryUnescape (cut s 0x3d).2).map fun value => (key, value)

/-- `url.ParseQuery`: the settings that are well-formed, in order. -/
def parseQuery (query : List UInt8) : List (List UInt8 × List UInt8) :=
  if query = [] then []
  else (setting? (cut query 0x26).1).toList ++ parseQuery (cut query 0x26).2
termination_by query.length
decreasing_by exact length_cut_lt ‹_› 0x26

/-- `Values.Get`: the first value of a key, or nothing. -/
def get (values : List (List UInt8 × List UInt8)) (key : String) : List UInt8 :=
  ((values.find? fun setting => setting.1 = Percent.utf8 key.toList).map Prod.snd).getD []

/-- The user of a request with the query, or the status and the text of the refusal. -/
def userID (rawQuery : List UInt8) : Except (ℕ × String) (List UInt8) :=
  let userID := get (parseQuery rawQuery) "user_id"
  if userID = [] then .error (400, "user_id required") else .ok userID

end Query

end TinyTelegram.Gateway
