import Carrier.AckReply

/-! The registry of message types, `types/opcode/opcode.go`, and its two uses in
`network/network.go`: `PrepareMessage` looks up the opcode of a message, and
`dispatchMessage` makes an empty message to decode a received one into. The types the
library comes with are decided by a switch in `dispatchMessage`, all others by the
registry. -/
namespace Carrier.Opcodes

open GoRuntime Identity Framing TransitionSystem

/-- What `reflect.TypeOf` tells apart: the types of the library, and those of the
application. -/
inductive MessageType (App : Type) where
  | bytes
  | ping
  | pong
  | lookupNodeRequest
  | lookupNodeResponse
  | keepalive
  | keepaliveResponse
  | disconnect
  | proxyRequest
  | proxyResponse
  | metricRequest
  | metricResponse
  | asyncAckResponse
  | application (name : App)
  deriving DecidableEq, Repr

structure ProtoMessage (App : Type) where
  type : MessageType App
  marshal : Except String Bytes

variable {App : Type} [DecidableEq App]

def emptyMessage (type : MessageType App) : ProtoMessage App := ⟨type, .ok []⟩

def unregisteredCode : UInt32 := 0
def bytesCode : UInt32 := 1
def keepaliveCode : UInt32 := 2
def keepaliveResponseCode : UInt32 := 3
def proxyResponseCode : UInt32 := 9
def pingCode : UInt32 := 10
def pongCode : UInt32 := 11
def lookupNodeRequestCode : UInt32 := 12
def lookupNodeResponseCode : UInt32 := 13
def disconnectCode : UInt32 := 14
def proxyRequestCode : UInt32 := 15
def metricRequestCode : UInt32 := 16
def metricResponseCode : UInt32 := 17
def ackResponseCode : UInt32 := 18
def applicationOpCodeStart : UInt32 := 1000

structure Registry (App : Type) where
  opcodeTbl : UInt32 → Option (ProtoMessage App)
  msgTbl : MessageType App → Option UInt32

def Registry.store (registry : Registry App) (opcode : UInt32) (msg : ProtoMessage App) : Registry App where
  opcodeTbl := Function.update registry.opcodeTbl opcode (some msg)
  msgTbl := Function.update registry.msgTbl msg.type (some opcode)

def msgOpcodePairs : List (MessageType App × UInt32) :=
  [(.bytes, bytesCode), (.ping, pingCode), (.pong, pongCode), (.lookupNodeRequest, lookupNodeRequestCode),
    (.lookupNodeResponse, lookupNodeResponseCode), (.keepalive, keepaliveCode),
    (.keepaliveResponse, keepaliveResponseCode), (.disconnect, disconnectCode),
    (.proxyRequest, proxyRequestCode), (.proxyResponse, proxyResponseCode),
    (.metricRequest, metricRequestCode), (.metricResponse, metricResponseCode),
    (.asyncAckResponse, ackResponseCode)]

def storePairs (registry : Registry App) (pairs : List (MessageType App × UInt32)) : Registry App :=
  pairs.foldl (fun registry pair => registry.store pair.2 (emptyMessage pair.1)) registry

def init : Registry App := storePairs ⟨fun _ => none, fun _ => none⟩ msgOpcodePairs

def registerMessageType (registry : Registry App) (opcode : UInt32) (msg : ProtoMessage App) :
    Except String (Registry App) :=
  if opcode < applicationOpCodeStart then .error "types: opcode must be 1000 or greater"
  else
    match msg.marshal with
    | .error err => .error err
    | .ok raw =>
        if raw.length ≠ 0 then .error "types: must provide an empty protobuf message"
        else
          match registry.opcodeTbl opcode with
          | some _ => .error "types: opcode already exists, choose a different opcode"
          | none => .ok (registry.store opcode msg)

def getMessageType (registry : Registry App) (code : UInt32) : Except String (ProtoMessage App) :=
  match registry.opcodeTbl code with
  | some msg => .ok msg
  | none => .error "types: opcode not found, did you register it?"

def getOpcode (registry : Registry App) (msg : ProtoMessage App) : Except String UInt32 :=
  match registry.msgTbl msg.type with
  | some opcode => .ok opcode
  | none => .error "types: message type not found, did you register it?"

/-- `PrepareMessage`. `sign` is absent where the context does not ask for a signature. -/
def prepareMessage (registry : Registry App) (sender : ID) (netID : UInt32)
    (sign : Option (Bytes → Except String Bytes)) (message : Option (ProtoMessage App)) :
    Except String Message :=
  match message with
  | none => .error "network: message is null"
  | some message => do
      let opcode ← getOpcode registry message
      let raw ← message.marshal
      match sign with
      | none => .ok (AckReply.prepareMessage ⟨raw, opcode, sender, netID⟩ none)
      | some sign => do
          let signature ← sign raw
          .ok (AckReply.prepareMessage ⟨raw, opcode, sender, netID⟩ (some signature))

/-- The cases of the switch in `dispatchMessage` that make a message themselves. -/
def dispatchCases : List (UInt32 × MessageType App) :=
  [(bytesCode, .bytes), (pingCode, .ping), (pongCode, .pong), (lookupNodeRequestCode, .lookupNodeRequest),
    (lookupNodeResponseCode, .lookupNodeResponse), (disconnectCode, .disconnect),
    (proxyRequestCode, .proxyRequest), (proxyResponseCode, .proxyResponse), (keepaliveCode, .keepalive),
    (keepaliveResponseCode, .keepaliveResponse)]

def dispatchTarget (registry : Registry App) (msg : Message) : Except String (ProtoMessage App) :=
  match dispatchCases.find? (fun case => case.1 = msg.opcode) with
  | some case => .ok (emptyMessage case.2)
  | none =>
      if msg.opcode = unregisteredCode then .error "network: message received had no opcode"
      else
        match getMessageType registry msg.opcode with
        | .ok ptr => .ok ptr
        | .error _ => .error "network: received message opcode is not registered"

/-! The two tables agree. -/

/-- Every type is found under its own opcode, and what lies below the opcodes of the
application is as `init` left it. -/
structure Consistent (registry : Registry App) : Prop where
  listed : ∀ type code, registry.msgTbl type = some code →
    ∃ msg, registry.opcodeTbl code = some msg ∧ msg.type = type
  reserved : ∀ code, code < applicationOpCodeStart → registry.opcodeTbl code = (init : Registry App).opcodeTbl code

theorem listed_store {registry : Registry App}
    (listed : ∀ type code, registry.msgTbl type = some code →
      ∃ msg, registry.opcodeTbl code = some msg ∧ msg.type = type)
    {opcode : UInt32} (unused : registry.opcodeTbl opcode = none) (msg : ProtoMessage App)
    (type : MessageType App) (code : UInt32) (found : (registry.store opcode msg).msgTbl type = some code) :
    ∃ entry, (registry.store opcode msg).opcodeTbl code = some entry ∧ entry.type = type := by
  by_cases own : type = msg.type
  · subst own
    obtain rfl : opcode = code := by simpa [Registry.store] using found
    exact ⟨msg, by simp [Registry.store], rfl⟩
  · obtain ⟨entry, there, same⟩ := listed type code (by simpa [Registry.store, own] using found)
    have other : code ≠ opcode := by
      rintro rfl
      rw [unused] at there
      cases there
    exact ⟨entry, by simpa [Registry.store, other] using there, same⟩

theorem listed_storePairs (pairs : List (MessageType App × UInt32)) (registry : Registry App)
    (once : (pairs.map Prod.snd).Nodup) (unused : ∀ pair ∈ pairs, registry.opcodeTbl pair.2 = none)
    (listed : ∀ type code, registry.msgTbl type = some code →
      ∃ msg, registry.opcodeTbl code = some msg ∧ msg.type = type) :
    ∀ type code, (storePairs registry pairs).msgTbl type = some code →
      ∃ msg, (storePairs registry pairs).opcodeTbl code = some msg ∧ msg.type = type := by
  induction pairs generalizing registry with
  | nil => exact listed
  | cons pair rest ih =>
      obtain ⟨first, later⟩ := List.nodup_cons.mp once
      apply ih (registry.store pair.2 (emptyMessage pair.1)) later
      · intro other member
        have apart : other.2 ≠ pair.2 := fun same => first (same ▸ List.mem_map_of_mem member)
        simpa [Registry.store, apart] using unused other (List.mem_cons_of_mem _ member)
      · exact listed_store listed (unused pair List.mem_cons_self) (emptyMessage pair.1)

theorem init_consistent : Consistent (init : Registry App) := by
  refine ⟨listed_storePairs _ _ ?_ (fun _ _ => rfl) ?_, fun _ _ => rfl⟩
  · simp [msgOpcodePairs, bytesCode, pingCode, pongCode, lookupNodeRequestCode, lookupNodeResponseCode,
      keepaliveCode, keepaliveResponseCode, disconnectCode, proxyRequestCode, proxyResponseCode,
      metricRequestCode, metricResponseCode, ackResponseCode]
  · intro type code found
    cases found

def Accepted (registry : Registry App) (call : UInt32 × ProtoMessage App) : Prop :=
  ¬ call.1 < applicationOpCodeStart ∧ call.2.marshal = .ok [] ∧ registry.opcodeTbl call.1 = none

theorem registerMessageType_ok {registry after : Registry App} {opcode : UInt32} {msg : ProtoMessage App}
    (registered : registerMessageType registry opcode msg = .ok after) :
    Accepted registry (opcode, msg) ∧ after = registry.store opcode msg := by
  unfold registerMessageType at registered
  split at registered
  · cases registered
  · rename_i application
    split at registered
    · cases registered
    · rename_i raw marshalled
      split at registered
      · cases registered
      · rename_i empty
        split at registered
        · cases registered
        · rename_i unused
          cases registered
          rw [List.length_eq_zero_iff.mp (not_not.mp empty)] at marshalled
          exact ⟨⟨application, marshalled, unused⟩, rfl⟩

/-! Runs of registrations. -/

/-- A call with an error leaves the tables as they are. -/
def register (registry : Registry App) (call : UInt32 × ProtoMessage App) : Registry App :=
  match registerMessageType registry call.1 call.2 with
  | .ok after => after
  | .error _ => registry

inductive Registers : Registry App → UInt32 × ProtoMessage App → Registry App → Prop where
  | call {registry : Registry App} {call : UInt32 × ProtoMessage App} :
      Registers registry call (register registry call)

theorem register_cases (registry : Registry App) (call : UInt32 × ProtoMessage App) :
    register registry call = registry ∨
      (Accepted registry call ∧ register registry call = registry.store call.1 call.2) := by
  unfold register
  split
  · rename_i after registered
    exact Or.inr (registerMessageType_ok registered)
  · exact Or.inl rfl

theorem Consistent.register {registry : Registry App} (consistent : Consistent registry)
    (call : UInt32 × ProtoMessage App) : Consistent (register registry call) := by
  rcases register_cases registry call with same | ⟨⟨application, _, unused⟩, stored⟩
  · rwa [same]
  · rw [stored]
    refine ⟨listed_store consistent.listed unused call.2, fun code low => ?_⟩
    have other : code ≠ call.1 := by
      rintro rfl
      exact application low
    simpa [Registry.store, other] using consistent.reserved code low

/-- An opcode that is taken stays taken, with the same message. -/
theorem register_keeps {registry : Registry App} {code : UInt32} {msg : ProtoMessage App}
    (found : registry.opcodeTbl code = some msg) (call : UInt32 × ProtoMessage App) :
    (register registry call).opcodeTbl code = some msg := by
  rcases register_cases registry call with same | ⟨⟨_, _, unused⟩, stored⟩
  · rwa [same]
  · have other : code ≠ call.1 := by
      rintro rfl
      rw [unused] at found
      cases found
    simpa [stored, Registry.store, other] using found

theorem dispatchCases_init : ∀ case ∈ (dispatchCases : List (UInt32 × MessageType App)),
    case.1 < applicationOpCodeStart ∧ (init : Registry App).opcodeTbl case.1 = some (emptyMessage case.2) := by
  intro case member
  simp only [dispatchCases, List.mem_cons, List.not_mem_nil, or_false] at member
  rcases member with rfl | rfl | rfl | rfl | rfl | rfl | rfl | rfl | rfl | rfl <;>
    exact ⟨by dsimp only; decide, rfl⟩

theorem dispatchTarget_type {registry : Registry App} (consistent : Consistent registry) {msg : Message}
    {entry : ProtoMessage App} (found : registry.opcodeTbl msg.opcode = some entry) :
    ∃ target, dispatchTarget registry msg = .ok target ∧ target.type = entry.type := by
  cases chosen : (dispatchCases : List (UInt32 × MessageType App)).find? (fun case => case.1 = msg.opcode) with
  | some case =>
      -- a type of the library: the entry is still the one of `init`
      obtain ⟨low, initial⟩ := dispatchCases_init case (List.mem_of_find?_eq_some chosen)
      have code : case.1 = msg.opcode := by simpa using List.find?_some chosen
      rw [code] at low initial
      rw [consistent.reserved _ low, initial, Option.some.injEq] at found
      exact ⟨emptyMessage case.2, by simp [dispatchTarget, chosen], by rw [← found]⟩
  | none =>
      have used : msg.opcode ≠ unregisteredCode := by
        intro zero
        rw [zero, consistent.reserved unregisteredCode (by decide)] at found
        cases found
      exact ⟨entry, by simp [dispatchTarget, chosen, used, getMessageType, found], rfl⟩

omit [DecidableEq App] in
theorem prepareMessage_opcode {registry : Registry App} {sender : ID} {netID : UInt32}
    {sign : Option (Bytes → Except String Bytes)} {message : ProtoMessage App} {sent : Message}
    (prepared : prepareMessage registry sender netID sign (some message) = .ok sent) :
    registry.msgTbl message.type = some sent.opcode := by
  simp only [prepareMessage, getOpcode] at prepared
  cases known : registry.msgTbl message.type with
  | none =>
      rw [known] at prepared
      cases prepared
  | some opcode =>
      rw [known] at prepared
      cases raw : message.marshal with
      | error err =>
          rw [raw] at prepared
          cases prepared
      | ok raw' =>
          rw [raw] at prepared
          cases sign with
          | none =>
              cases prepared
              rfl
          | some sign =>
              cases signed : sign raw' with
              | error err =>
                  simp only [bind, Except.bind, signed] at prepared
                  cases prepared
              | ok signature =>
                  simp only [bind, Except.bind, signed] at prepared
                  cases prepared
                  rfl

/-- A message prepared in any registry that was reached is decoded into one of its own
type, in that registry and in every later one. -/
theorem dispatch_prepared {before after : List (UInt32 × ProtoMessage App)} {registry now : Registry App}
    (reached : Run Registers init before registry) (later : Run Registers registry after now)
    {sender : ID} {netID : UInt32} {sign : Option (Bytes → Except String Bytes)} {message : ProtoMessage App}
    {sent : Message} (prepared : prepareMessage registry sender netID sign (some message) = .ok sent) :
    ∃ target, dispatchTarget now sent = .ok target ∧ target.type = message.type := by
  have kept : ∀ (before : Registry App) call after, Registers before call after → Consistent before →
      Consistent after := by
    rintro before call _ ⟨⟩ consistent
    exact consistent.register call
  have consistent := reached.invariant Consistent kept init_consistent
  obtain ⟨entry, found, type⟩ := consistent.listed _ _ (prepareMessage_opcode prepared)
  have still := later.invariant (fun registry => registry.opcodeTbl sent.opcode = some entry)
    (by
      rintro before call _ ⟨⟩ there
      exact register_keeps there call) found
  obtain ⟨target, decoded, same⟩ := dispatchTarget_type (later.invariant Consistent kept consistent) still
  exact ⟨target, decoded, same.trans type⟩

/-- `Ping` is registered once more, its opcode is then refused to another type, and that
type gets an opcode of its own before the message arrives. -/
theorem dispatch_prepared_again :
    ∃ (registry now : Registry String) (sent : Message),
      Run Registers init [(1000, emptyMessage .ping), (1000, emptyMessage (.application "chat"))] registry ∧
      Run Registers registry [(1001, emptyMessage (.application "chat"))] now ∧
      prepareMessage registry (AcceptLoops.neighbour [1]) 0 none (some (emptyMessage .ping)) = .ok sent ∧
      sent.opcode = 1000 ∧ ∃ target, dispatchTarget now sent = .ok target ∧ target.type = .ping := by
  obtain ⟨registry, now, sent, reached, later, prepared, code⟩ : ∃ (registry now : Registry String) (sent : Message),
      Run Registers init [(1000, emptyMessage .ping), (1000, emptyMessage (.application "chat"))] registry ∧
      Run Registers registry [(1001, emptyMessage (.application "chat"))] now ∧
      prepareMessage registry (AcceptLoops.neighbour [1]) 0 none (some (emptyMessage .ping)) = .ok sent ∧
      sent.opcode = 1000 :=
    ⟨_, _, _, .cons .call (.cons .call (.nil _)), .cons .call (.nil _), rfl, rfl⟩
  exact ⟨registry, now, sent, reached, later, prepared, code, dispatch_prepared reached later prepared⟩

/-! What a registration leaves as it was. Only the table of opcodes refuses to be
overwritten. -/

theorem register_of_accepted {registry : Registry App} {call : UInt32 × ProtoMessage App}
    (accepted : Accepted registry call) : register registry call = registry.store call.1 call.2 := by
  obtain ⟨application, empty, unused⟩ := accepted
  simp [register, registerMessageType, application, empty, unused]

theorem register_of_refused {registry : Registry App} {call : UInt32 × ProtoMessage App}
    (refused : ¬ Accepted registry call) : register registry call = registry := by
  rcases register_cases registry call with same | ⟨accepted, _⟩
  · exact same
  · exact absurd accepted refused

omit [DecidableEq App] in
theorem getOpcode_eq_ok {registry : Registry App} {msg : ProtoMessage App} {code : UInt32} :
    getOpcode registry msg = .ok code ↔ registry.msgTbl msg.type = some code := by
  unfold getOpcode
  cases registry.msgTbl msg.type <;> simp

omit [DecidableEq App] in
theorem getMessageType_eq_ok {registry : Registry App} {msg : ProtoMessage App} {code : UInt32} :
    getMessageType registry code = .ok msg ↔ registry.opcodeTbl code = some msg := by
  unfold getMessageType
  cases registry.opcodeTbl code <;> simp

/-- In every registry that was reached, a call leaves what is registered as it was
exactly if it is refused or brings a type that is not registered. -/
theorem registration_keeps_iff {calls : List (UInt32 × ProtoMessage App)} {registry : Registry App}
    (reached : Run Registers init calls registry) (call : UInt32 × ProtoMessage App) :
    ((∀ msg code, getOpcode registry msg = .ok code → getOpcode (register registry call) msg = .ok code) ∧
      ∀ code msg, getMessageType registry code = .ok msg →
        getMessageType (register registry call) code = .ok msg) ↔
    (Accepted registry call → registry.msgTbl call.2.type = none) := by
  have consistent : Consistent registry := reached.invariant Consistent (by
    rintro before call _ ⟨⟩ consistent
    exact consistent.register call) init_consistent
  simp only [getOpcode_eq_ok, getMessageType_eq_ok]
  constructor
  · rintro ⟨opcodes, _⟩ accepted
    cases known : registry.msgTbl call.2.type with
    | none => rfl
    | some code =>
        -- the type has an opcode of its own, which is taken, and gets the one of the call
        have moved := opcodes call.2 code known
        rw [register_of_accepted accepted] at moved
        obtain rfl : call.1 = code := by simpa [Registry.store] using moved
        obtain ⟨entry, there, _⟩ := consistent.listed _ _ known
        rw [accepted.2.2] at there
        cases there
  · intro unknown
    refine ⟨fun msg code known => ?_, fun code msg found => register_keeps found call⟩
    by_cases accepted : Accepted registry call
    · have other : msg.type ≠ call.2.type := by
        intro same
        rw [same, unknown accepted] at known
        cases known
      simpa [register_of_accepted accepted, Registry.store, other] using known
    · rwa [register_of_refused accepted]

/-- A type of the application. -/
theorem registration_keeps_iff_new :
    getOpcode (register init (1000, emptyMessage (.application "chat"))) (emptyMessage .ping) = .ok pingCode := by
  have kept := (registration_keeps_iff (.nil (init : Registry String))
    (1000, emptyMessage (.application "chat"))).mpr fun _ => rfl
  exact kept.1 (emptyMessage .ping) pingCode rfl

/-- `Ping` is registered once more: from then on its messages carry the new opcode. -/
theorem registration_changes_opcode :
    getOpcode (init : Registry String) (emptyMessage .ping) = .ok 10 ∧
    (∃ after, registerMessageType (init : Registry String) 1000 (emptyMessage .ping) = .ok after) ∧
    getOpcode (register (init : Registry String) (1000, emptyMessage .ping)) (emptyMessage .ping) = .ok 1000 :=
  ⟨rfl, ⟨_, rfl⟩, rfl⟩

end Carrier.Opcodes
