import TinyTelegram.WebClient.Session

/-!
# The page

`TinyTelegramClient` again, with what it does to the page: its WebSockets, its timers and the elements of
the messages container.  The status line, the info bar and the overlay are left out, as no function reads
them.

The handlers of every socket that was ever made act on the one client, also after `connect` has put
another into `ws`.
-/

namespace TinyTelegram.WebClient

open Gateway (Frame)

/-- A child of the messages container. -/
inductive Element where
  /-- A message bubble, with `msg-` before the id in the page. -/
  | message (id : String) (sent : Bool) (content metaText : String)
  | system (text : String)
  deriving DecidableEq, Repr

/-- A page with the client. -/
structure Page where
  client : Client
  /-- The login screen is there until the first socket opens. -/
  loginShown : Bool
  container : List Element
  /-- All sockets that were made. -/
  sockets : List ReadyState
  /-- The delays of the timers that have not fired. -/
  timers : List ℕ

/-- What happens on a page. -/
inductive Page.Event where
  /-- The login form; `throws` says what `new WebSocket` does. -/
  | submit (userId gatewayUrl : String) (throws : Bool)
  | onOpen (i : ℕ)
  | onMessage (i : ℕ) (now : Int) (frame : Frame)
  | onError (i : ℕ)
  | onClose (i : ℕ)
  /-- The timer `k` fires. -/
  | timeout (k : ℕ) (throws : Bool)
  /-- The message form, with what `sendMessage` draws. -/
  | send (receiverID content : String) (now : Int) (rand : String)
  deriving DecidableEq, Repr

/-- What a bubble says below the content. -/
def Message.metaText (msg : Message) (userId : Option String) : String :=
  (if msg.senderId = userId then "You → " ++ msg.receiverId
    else msg.senderId.getD "null" ++ " → You") ++
  (match msg.pts with
    | some pts => if pts ≠ 0 then " | pts: " ++ toString pts else ""
    | none => "") ++
  if msg.pending then " | Sending..." else ""

def gapText (g : Int × Int) : String :=
  "⚠️ Gap detected (" ++ toString g.1 ++ " → " ++ toString g.2 ++ "). Would call getDiff here."

namespace Page

def addSystemMessage (p : Page) (text : String) : Page :=
  { p with container := p.container ++ [.system text] }

def displayMessage (p : Page) (msgID : String) : Page :=
  match p.client.messages msgID with
  | none => p
  | some msg =>
    { p with container := p.container ++ [.message msgID (msg.senderId = p.client.userId) msg.content
        (msg.metaText p.client.userId)] }

/-- `remove` of the first element with the id of the message, if there is one. -/
def removeMessage (p : Page) (msgID : String) : Page :=
  { p with container := p.container.eraseP fun
      | .message id .. => id = msgID
      | .system _ => false }

/-- `connect`. -/
def connect (p : Page) (userId gatewayUrl : String) (throws : Bool) : Page :=
  if throws then { p with client := p.client.connect userId gatewayUrl none }
  else { p with
    client := p.client.connect userId gatewayUrl (some p.sockets.length)
    sockets := p.sockets ++ [.connecting] }

def onOpen (p : Page) : Page :=
  { p with client := p.client.onOpen, loginShown := false }.addSystemMessage
    ("Connected as " ++ p.client.userId.getD "null")

def onClose (p : Page) : Page :=
  match p.client.onClose with
  | (client, some delay) =>
    { p with client := client, timers := p.timers ++ [delay] }.addSystemMessage
      ("Connection lost. Reconnecting in " ++ toString (delay / 1000) ++ "s...")
  | (client, none) =>
    { p with client := client }.addSystemMessage
      "Connection lost. Please refresh the page to reconnect."

def handleAck (p : Page) (senderPts : Int) (messageID : String) : Page :=
  let client := p.client.handleAck senderPts messageID
  match p.client.pendingAcks with
  | [] => { p with client := client }
  | tempID :: _ =>
    if (p.client.messages tempID).isSome then
      ({ p with client := client }.removeMessage tempID).displayMessage messageID
    else { p with client := client }

def handleIncomingMessage (p : Page) (m : PersistedMessage) (msg : ChatMessage) (now : Int) : Page :=
  { p with
    client := p.client.handleIncomingMessage m msg now
    container := p.container ++ (p.client.gap? m msg).toList.map fun g => Element.system (gapText g)
    }.displayMessage m.id

def onMessage (p : Page) (now : Int) : Frame → Page
  | .ack senderPts messageID => p.handleAck senderPts messageID
  | .message m =>
    match m.message with
    | some msg => p.handleIncomingMessage m msg now
    | none => p

/-- The socket in `ws` is open. -/
def connected (p : Page) : Bool :=
  (p.client.ws.bind fun i => p.sockets[i]?) = some .opened

def sendMessage (p : Page) (receiverID content tempID : String) (now : Int) : Page :=
  if p.connected then
    { p with client := (p.client.sendMessage receiverID content tempID now).1 }.displayMessage tempID
  else p

/-- One event; only what `connect` has been called for is connected again. -/
def step (p : Page) : Event → Option Page
  | .submit userId gatewayUrl throws =>
    if p.loginShown then some (p.connect userId gatewayUrl throws) else none
  | .onOpen i =>
    if p.sockets[i]? = some .connecting then
      some { p with sockets := p.sockets.set i .opened }.onOpen
    else none
  | .onMessage i now frame =>
    if p.sockets[i]? = some .opened then some (p.onMessage now frame) else none
  | .onError i =>
    match p.sockets[i]? with
    | none | some .closed => none
    | some _ => some p
  | .onClose i =>
    match p.sockets[i]? with
    | none | some .closed => none
    | some _ => some { p with sockets := p.sockets.set i .closed }.onClose
  | .timeout k throws =>
    match p.timers[k]?, p.client.userId, p.client.gatewayUrl with
    | some _, some userId, some gatewayUrl =>
      some ({ p with timers := p.timers.eraseIdx k }.connect userId gatewayUrl throws)
    | _, _, _ => none
  | .send receiverID content now rand =>
    some (if receiverID ≠ "" ∧ content ≠ "" then
      p.sendMessage receiverID content (tempId now rand) now else p)

/-- A page that has been loaded. -/
def init (storage : Option Saved) : Page where
  client := .load storage
  loginShown := true
  container := []
  sockets := []
  timers := []

end Page

/-- A page, in a browser with the given `localStorage`. -/
def page (storage : Option Saved) : Lts.System Page Page.Event where
  init := .init storage
  step := Page.step

end TinyTelegram.WebClient
