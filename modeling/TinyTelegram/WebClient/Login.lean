import Mathlib.Data.List.DropRight
import TinyTelegram.Lib.Percent

/-!
# The URL of a login

`web-client/public/app.js`: the URL that `connect` opens a WebSocket at, and the query that the browser makes
of it for the request.

A string here has no surrogates without their other half; `encodeURIComponent` throws on those.
-/

namespace TinyTelegram.WebClient

namespace Login

/-- The characters that `encodeURIComponent` leaves. -/
def unescaped (c : Char) : Bool := c.isAlphanum || "-_.!~*'()".toList.contains c

def encodeURIComponent (uriComponent : String) : String :=
  String.ofList (Percent.encode unescaped uriComponent.toList)

/-- The URL of `connect`. -/
def wsUrl (gatewayUrl userId : String) : String :=
  gatewayUrl ++ "?user_id=" ++ encodeURIComponent userId

/-! ### In the browser -/

/-- White space and controls, which the URL parser takes off both ends. -/
def isSpace (c : Char) : Bool := c.toNat ≤ 0x20

/-- Tabs and newlines, which it drops wherever they are. -/
def isBreak (c : Char) : Bool := c = '\t' || c = '\n' || c = '\r'

/-- The text that it reads. -/
def strip (url : List Char) : List Char :=
  ((url.dropWhile isSpace).rdropWhile isSpace).filter fun c => !isBreak c

/-- The characters that it leaves in the query of a WebSocket. -/
def querySafe (c : Char) : Bool :=
  0x20 < c.toNat && c.toNat < 0x7f && !"\"#<>'".toList.contains c

/-- The query of the URL, if it has one: what is between its first `?` and its fragment. -/
def query? (url : String) : Option (List Char) :=
  match ((strip url.toList).takeWhile (· ≠ '#')).dropWhile (· ≠ '?') with
  | [] => none
  | _ :: query => some (Percent.encode querySafe query)

end Login

end TinyTelegram.WebClient
