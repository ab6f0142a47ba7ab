import UniverEscrow.Infrastructure.VsockBridgeAdapter

/-!
# From the first event of a connection to the last

The adapter, the socket, the callback of `connect` and its timer all act on one connection, in any
order that the socket allows.  A connection can be announced as disconnected twice: closing it
does not stop what sets its state before the socket has closed.
-/

namespace UniverEscrow.Infrastructure

open UniverEscrow.Lib UniverEscrow.Lib.Run UniverEscrow.Merkle UniverEscrow.Js

/-! ## What one event emits -/

namespace VsockChannel

variable (sha256 : List UInt8 → HexDigest) (channel : VsockChannel) (event : SocketEvent)

/-- What the handlers have been told, in order. -/
def types : List VsockEventType := channel.emitted.map (·.type)

/-- What they are told of an event. -/
def emits : SocketEvent → List VsockEventType
  | .connect _ _ => [.CONNECTED]
  | .error _ _ => [.ERROR]
  | .close _ => if channel.connection.state = .DISCONNECTED then [] else [.DISCONNECTED]
  | .data _ => [.DATA]
  | .opened | .timeout => []
  | .closeConnection emit _ => if channel.listed && emit then [.DISCONNECTED] else []

theorem types_step : (channel.step sha256 event).types = channel.types ++ channel.emits event := by
  cases event with
  | connect activityMs eventMs => exact List.map_append
  | error message eventMs => exact List.map_append
  | data chunk => exact List.map_append
  | opened => exact (List.append_nil _).symm
  | timeout => exact (List.append_nil _).symm
  | close eventMs =>
      rw [step, emits]
      by_cases hstate : channel.connection.state = .DISCONNECTED
      · rw [if_neg (not_not_intro hstate), if_pos hstate, List.append_nil]
        rfl
      · rw [if_pos hstate, if_neg hstate]
        exact List.map_append
  | closeConnection emit eventMs =>
      rw [step, emits]
      cases channel.listed with
      | false => exact (List.append_nil _).symm
      | true =>
          cases emit with
          | false => exact (List.append_nil _).symm
          | true => exact List.map_append

theorem length_emits : (channel.emits event).length ≤ 1 := by
  cases event with
  | close eventMs =>
      rw [emits]
      split_ifs
      · exact Nat.zero_le 1
      · exact le_rfl
  | closeConnection emit eventMs =>
      rw [emits]
      split_ifs
      · exact le_rfl
      · exact Nat.zero_le 1
  | opened => exact Nat.zero_le 1
  | timeout => exact Nat.zero_le 1
  | _ => exact le_rfl

variable {channel event}

theorem connected_mem_emits (h : .CONNECTED ∈ channel.emits event) :
    ∃ activityMs eventMs, event = .connect activityMs eventMs := by
  cases event with
  | connect activityMs eventMs => exact ⟨activityMs, eventMs, rfl⟩
  | _ => simp [emits] at h

theorem data_mem_emits (h : .DATA ∈ channel.emits event) : ∃ chunk, event = .data chunk := by
  cases event with
  | data chunk => exact ⟨chunk, rfl⟩
  | _ => simp [emits] at h

variable (channel event)

/-- The adapter lists a connection until it or the socket closes it. -/
theorem listed_step : (channel.step sha256 event).listed =
    match event with
    | .close _ | .closeConnection _ _ => false
    | _ => channel.listed := by
  cases event with
  | close eventMs =>
      rw [step]
      split_ifs <;> rfl
  | closeConnection emit eventMs =>
      rw [step]
      split_ifs with hlisted hemit
      · rfl
      · rfl
      · exact Bool.eq_false_of_not_eq_true hlisted
  | _ => rfl

variable {sha256 channel event} in
theorem listed_of_step (h : (channel.step sha256 event).listed = true) :
    channel.listed = true := by
  rw [listed_step] at h
  cases event with
  | close eventMs => cases h
  | closeConnection emit eventMs => cases h
  | _ => exact h

variable {channel event} in
/-- Only an event after which the connection is not listed announces its end. -/
theorem disconnected_mem_emits (h : .DISCONNECTED ∈ channel.emits event) :
    (channel.step sha256 event).listed = false := by
  rw [listed_step]
  cases event with
  | close eventMs => rfl
  | closeConnection emit eventMs => rfl
  | _ => simp [emits] at h

theorem state_step : (channel.step sha256 event).connection.state =
    match event with
    | .connect _ _ | .opened => .CONNECTED
    | .error _ _ | .timeout => .ERROR
    | .close _ => .DISCONNECTED
    | .data _ => channel.connection.state
    | .closeConnection _ _ =>
        if channel.listed then .DISCONNECTED else channel.connection.state := by
  cases event with
  | close eventMs =>
      rw [step]
      split_ifs <;> rfl
  | closeConnection emit eventMs =>
      rw [step]
      split_ifs <;> rfl
  | _ => rfl

end VsockChannel

/-! ## What the socket allows -/

/-- A connection, and how far its socket is: connected and the callback run, destroyed, closed, and
whether the timer of `connect` is set. -/
structure Lifecycle where
  channel : VsockChannel
  connected : Bool
  opened : Bool
  destroyed : Bool
  closed : Bool
  timer : Bool

namespace Lifecycle

def start (channel : VsockChannel) : Lifecycle := ⟨channel, false, false, false, false, true⟩

def step (sha256 : List UInt8 → HexDigest) (life : Lifecycle) (event : SocketEvent) : Lifecycle :=
  let life' := { life with channel := life.channel.step sha256 event }
  match event with
  | .connect _ _ => { life' with connected := true }
  | .opened => { life' with opened := true, timer := false }
  | .data _ => life'
  | .error _ _ => { life' with destroyed := true }
  | .close _ => { life' with destroyed := true, closed := true }
  | .timeout => { life' with destroyed := true, timer := false }
  | .closeConnection _ _ => { life' with destroyed := life.destroyed || life.channel.listed }

/-- A socket connects at most once, before it is destroyed, and the callback of `connect` runs with
its listeners, of which one may close the connection; it receives data until it is destroyed, and
closes once, after which it has no errors.  The timer fires at most once. -/
def allows (life : Lifecycle) : SocketEvent → Bool
  | .connect _ _ => !life.connected && !life.destroyed
  | .opened => life.connected && !life.opened
  | .data _ => life.opened && !life.destroyed
  | .error _ _ | .close _ => life.opened == life.connected && !life.closed
  | .timeout => life.opened == life.connected && life.timer
  | .closeConnection _ _ => true

/-! ## The order of what is emitted -/

/-- One announcement of the connection, and data only after it and before that of its end. -/
structure InOrder (types : List VsockEventType) : Prop where
  connected : types.count .CONNECTED ≤ 1
  data : ∀ before after, types = before ++ .DATA :: after →
    .CONNECTED ∈ before ∧ .DISCONNECTED ∉ before

theorem InOrder.append {types more : List VsockEventType} (h : InOrder types)
    (hconnected : .CONNECTED ∈ more → .CONNECTED ∉ types) (hmore : more.length ≤ 1)
    (hdata : .DATA ∈ more → .CONNECTED ∈ types ∧ .DISCONNECTED ∉ types) :
    InOrder (types ++ more) := by
  cases more with
  | nil => rwa [List.append_nil]
  | cons type rest =>
      obtain rfl : rest = [] := List.eq_nil_of_length_eq_zero (by simpa using hmore)
      constructor
      · rw [List.count_append, List.count_singleton]
        have hcount := h.connected
        by_cases htype : type = .CONNECTED
        · have hzero := List.count_eq_zero.2 (hconnected (by simp [htype]))
          rw [hzero]
          split_ifs <;> omega
        · rw [if_neg (by simpa using htype)]
          omega
      · intro before after heq
        rcases List.append_eq_append_iff.1 heq with ⟨rest, hbefore, hrest⟩ | ⟨rest, htypes, hrest⟩
        · cases rest with
          | nil =>
              rw [List.nil_append, List.cons.injEq] at hrest
              rw [hbefore, List.append_nil]
              exact hdata (by simp [hrest.1])
          | cons next rest => simp at hrest
        · cases rest with
          | nil =>
              rw [List.nil_append, List.cons.injEq] at hrest
              rw [List.append_nil] at htypes
              rw [← htypes]
              exact hdata (by simp [hrest.1])
          | cons next rest =>
              rw [List.cons_append, List.cons.injEq] at hrest
              rw [← hrest.1] at htypes
              exact h.data before rest htypes

/-- What holds of a connection between two events. -/
structure Lawful (life : Lifecycle) : Prop where
  order : InOrder life.channel.types
  connected : life.connected = true ↔ .CONNECTED ∈ life.channel.types
  listed : life.channel.listed = true → .DISCONNECTED ∉ life.channel.types
  state : life.channel.listed = true → life.channel.connection.state ≠ .DISCONNECTED
  alive : life.destroyed = false → life.channel.listed = true
  opened : life.opened = true → life.connected = true
  closed : life.closed = true →
    life.channel.listed = false ∧ life.destroyed = true ∧ life.opened = life.connected

variable {sha256 : List UInt8 → HexDigest} {life : Lifecycle} {event : SocketEvent}

theorem lawful_start {isRunning : Bool} {remoteCid remotePort : JsNumber} {unique : String}
    {createdMs activityMs : ℤ} {channel : VsockChannel}
    (hconnect : VsockBridgeAdapter.connect isRunning remoteCid remotePort unique createdMs
      activityMs = .ok channel) : Lawful (start channel) := by
  simp only [VsockBridgeAdapter.connect, bind_eq_ok] at hconnect
  obtain ⟨-, -, -, -, -, -, heq⟩ := hconnect
  cases heq
  constructor
  · show InOrder []
    exact ⟨Nat.zero_le _, fun before after heq => by simp at heq⟩
  · exact ⟨fun h => (by cases h), fun h => (by cases h)⟩
  · exact fun _ h => by cases h
  · exact fun _ hstate => by cases hstate
  · exact fun _ => rfl
  · exact fun h => by cases h
  · exact fun h => by cases h

variable (sha256 life event) in
theorem channel_step : (life.step sha256 event).channel = life.channel.step sha256 event := by
  cases event <;> rfl

theorem Lawful.order_step (h : Lawful life) (hallows : life.allows event = true) :
    InOrder (life.step sha256 event).channel.types := by
  rw [channel_step, VsockChannel.types_step]
  refine h.order.append (fun hmem hbefore => ?_) (life.channel.length_emits event) fun hmem => ?_
  · obtain ⟨activityMs, eventMs, rfl⟩ := VsockChannel.connected_mem_emits hmem
    simp only [allows, Bool.and_eq_true, Bool.not_eq_true'] at hallows
    rw [← h.connected, hallows.1] at hbefore
    cases hbefore
  · obtain ⟨chunk, rfl⟩ := VsockChannel.data_mem_emits hmem
    simp only [allows, Bool.and_eq_true, Bool.not_eq_true'] at hallows
    exact ⟨h.connected.1 (h.opened hallows.1), h.listed (h.alive hallows.2)⟩

variable (sha256) in
/-- An event that the socket allows keeps all of this. -/
theorem Lawful.step (h : Lawful life) (hallows : life.allows event = true) :
    Lawful (life.step sha256 event) := by
  have hchannel := channel_step sha256 life event
  constructor
  · exact h.order_step hallows
  · rw [hchannel, VsockChannel.types_step, List.mem_append, ← h.connected]
    cases event with
    | connect activityMs eventMs => simp [Lifecycle.step, VsockChannel.emits]
    | _ => simp [Lifecycle.step, VsockChannel.emits]
  · rw [hchannel, VsockChannel.types_step, List.mem_append, not_or]
    intro hlisted
    refine ⟨h.listed (VsockChannel.listed_of_step hlisted), fun hmem => ?_⟩
    rw [VsockChannel.disconnected_mem_emits sha256 hmem] at hlisted
    cases hlisted
  · rw [hchannel, VsockChannel.state_step]
    intro hlisted
    have hbefore := VsockChannel.listed_of_step hlisted
    rw [VsockChannel.listed_step] at hlisted
    cases event with
    | data chunk => exact h.state hbefore
    | close | closeConnection => cases hlisted
    | _ => exact fun hstate => by cases hstate
  · rw [hchannel, VsockChannel.listed_step]
    intro halive
    cases event with
    | connect | opened | data => exact h.alive halive
    | error | close | timeout => cases halive
    | closeConnection emit eventMs =>
        simp only [Lifecycle.step, Bool.or_eq_false_iff] at halive
        have hlisted := h.alive halive.1
        rw [halive.2] at hlisted
        cases hlisted
  · intro hopened
    cases event with
    | connect activityMs eventMs => rfl
    | opened => 
        simp only [allows, Bool.and_eq_true] at hallows
        exact hallows.1
    | _ => exact h.opened hopened
  · rw [hchannel, VsockChannel.listed_step]
    intro hclosed
    cases event with
    | connect activityMs eventMs =>
        obtain ⟨-, hdestroyed, -⟩ := h.closed hclosed
        simp [allows, hdestroyed] at hallows
    | opened =>
        obtain ⟨-, -, hopened⟩ := h.closed hclosed
        simp [allows, hopened] at hallows
    | data chunk => exact h.closed hclosed
    | error message eventMs =>
        obtain ⟨hlisted, -, hopened⟩ := h.closed hclosed
        exact ⟨hlisted, rfl, hopened⟩
    | timeout =>
        obtain ⟨hlisted, -, hopened⟩ := h.closed hclosed
        exact ⟨hlisted, rfl, hopened⟩
    | close eventMs =>
        simp only [allows, Bool.and_eq_true, beq_iff_eq] at hallows
        exact ⟨rfl, rfl, hallows.1⟩
    | closeConnection emit eventMs =>
        obtain ⟨-, hdestroyed, hopened⟩ := h.closed hclosed
        refine ⟨rfl, ?_, hopened⟩
        rw [Lifecycle.step, hdestroyed]
        rfl

/-- A closed socket allows nothing that is announced. -/
theorem Lawful.emits_of_closed (h : Lawful life) (hclosed : life.closed = true)
    (hallows : life.allows event = true) : life.channel.emits event = [] := by
  obtain ⟨hlisted, hdestroyed, hopened⟩ := h.closed hclosed
  cases event with
  | opened => rfl
  | timeout => rfl
  | closeConnection emit eventMs => simp [VsockChannel.emits, hlisted]
  | _ => simp [allows, hclosed, hdestroyed] at hallows

theorem closed_step (hclosed : life.closed = true) : (life.step sha256 event).closed = true := by
  cases event with
  | close eventMs => rfl
  | _ => exact hclosed

/-- Every event is one that the socket allows. -/
def Allowed (sha256 : List UInt8 → HexDigest) (life : Lifecycle) (events : List SocketEvent) :
    Prop :=
  EachStep (step sha256) (fun life event => life.allows event = true) life events

theorem types_run_of_closed {events : List SocketEvent} (h : Lawful life)
    (hclosed : life.closed = true) (hallowed : Allowed sha256 life events) :
    (run (step sha256) life events).channel.types = life.channel.types := by
  induction events generalizing life with
  | nil => rfl
  | cons event events ih =>
      rw [run_cons, ih (h.step sha256 hallowed.1) (closed_step hclosed) hallowed.2, channel_step,
        VsockChannel.types_step, h.emits_of_closed hclosed hallowed.1, List.append_nil]

section Runs

variable {isRunning : Bool} {remoteCid remotePort : JsNumber} {unique : String}
  {createdMs activityMs : ℤ} {channel : VsockChannel} {events : List SocketEvent}

theorem lawful_run (h : Lawful life) (hallowed : Allowed sha256 life events) :
    Lawful (run (step sha256) life events) :=
  (throughout_of_step (fun _ _ h hallows => h.step sha256 hallows) h hallowed).run

end Runs

/-- A handler closes the connection when it learns of it; then the callback of `connect` runs. -/
def closedAtOnce : List SocketEvent :=
  [.connect 1 1, .closeConnection true 1, .opened, .close 2]

theorem allowed_closedAtOnce {channel : VsockChannel} :
    Allowed sha256 (start channel) closedAtOnce :=
  ⟨rfl, rfl, rfl, rfl, trivial⟩

/-- The event sets the state of a connection that the adapter has closed. -/
def revives : SocketEvent → Bool
  | .error _ _ | .opened | .timeout => true
  | _ => false

def isClose : SocketEvent → Bool
  | .close _ => true
  | _ => false

/-- The end is announced as the adapter closes the connection, unless it stops, and as the socket
closes, unless the adapter was first and nothing has set the state in between. -/
def announcements : List SocketEvent → ℕ
  | [] => 0
  | .close _ :: _ => 1
  | .closeConnection emit _ :: rest =>
      emit.toNat + ((rest.takeWhile fun event => !isClose event).any revives).toNat
  | _ :: rest => announcements rest

section Announcements

variable {events : List SocketEvent}

/-- How often the end has been announced. -/
def announced (life : Lifecycle) : ℕ := life.channel.types.count .DISCONNECTED

variable (sha256 life event) in
theorem announced_step : (life.step sha256 event).announced =
    life.announced + (life.channel.emits event).count .DISCONNECTED := by
  rw [announced, channel_step, VsockChannel.types_step, List.count_append, announced]

theorem announced_run_of_closed (h : Lawful life) (hclosed : life.closed = true)
    (hallowed : Allowed sha256 life events) :
    (run (step sha256) life events).announced = life.announced := by
  rw [announced, types_run_of_closed h hclosed hallowed, announced]

/-- From the moment at which the adapter has closed the connection. -/
theorem announced_run_of_unlisted (h : Lawful life) (hlisted : life.channel.listed = false)
    (hopen : life.closed = false) (hallowed : Allowed sha256 life events)
    (hclosed : (run (step sha256) life events).closed = true) :
    (run (step sha256) life events).announced = life.announced +
      (decide (life.channel.connection.state ≠ .DISCONNECTED) ||
        (events.takeWhile fun event => !isClose event).any revives).toNat := by
  induction events generalizing life with
  | nil =>
      rw [run_nil, hopen] at hclosed
      cases hclosed
  | cons event events ih =>
      have hdestroyed : life.destroyed = true := by
        by_contra halive
        rw [h.alive (Bool.eq_false_of_not_eq_true halive)] at hlisted
        cases hlisted
      have hallows := hallowed.1
      have hlawful := h.step sha256 hallows
      have hannounced := announced_step sha256 life event
      have hstate := life.channel.state_step sha256 event
      have hlisted' := life.channel.listed_step sha256 event
      rw [← channel_step] at hstate hlisted'
      rw [run_cons] at hclosed ⊢
      cases event with
      | connect activityMs eventMs => simp [allows, hdestroyed] at hallows
      | data chunk => simp [allows, hdestroyed] at hallows
      | close eventMs =>
          rw [announced_run_of_closed hlawful rfl hallowed.2, hannounced, VsockChannel.emits]
          by_cases hended : life.channel.connection.state = .DISCONNECTED
          · simp [hended, isClose]
          · simp [hended, isClose]
      | closeConnection emit eventMs =>
          rw [ih hlawful hlisted' hopen hallowed.2 hclosed, hannounced, hstate, hlisted]
          simp [VsockChannel.emits, hlisted, isClose, revives]
      | opened | error | timeout =>
          rw [ih hlawful (hlisted'.trans hlisted) hopen hallowed.2 hclosed, hannounced, hstate]
          simp [VsockChannel.emits, isClose, revives]

/-- From the moment at which the adapter lists it. -/
theorem announced_run_of_listed (h : Lawful life) (hlisted : life.channel.listed = true)
    (hallowed : Allowed sha256 life events)
    (hclosed : (run (step sha256) life events).closed = true) :
    (run (step sha256) life events).announced = announcements events := by
  induction events generalizing life with
  | nil =>
      have hunlisted := (h.closed hclosed).1
      rw [hlisted] at hunlisted
      cases hunlisted
  | cons event events ih =>
      have hlawful := h.step sha256 hallowed.1
      have hannounced := announced_step sha256 life event
      have hstate := life.channel.state_step sha256 event
      have hlisted' := life.channel.listed_step sha256 event
      have hnone : life.announced = 0 := List.count_eq_zero.2 (h.listed hlisted)
      rw [← channel_step] at hstate hlisted'
      rw [run_cons] at hclosed ⊢
      cases event with
      | close eventMs =>
          rw [announced_run_of_closed hlawful rfl hallowed.2, hannounced, hnone, VsockChannel.emits,
            if_neg (h.state hlisted)]
          rfl
      | closeConnection emit eventMs =>
          have hopen : life.closed = false := by
            by_contra hclosed'
            rw [(h.closed (Bool.eq_true_of_not_eq_false hclosed')).1] at hlisted
            cases hlisted
          rw [announced_run_of_unlisted hlawful hlisted' hopen hallowed.2 hclosed, hannounced,
            hnone, hstate, hlisted, announcements]
          cases emit <;> simp [VsockChannel.emits, hlisted]
      | connect | data | opened | error | timeout =>
          exact ih hlawful (hlisted'.trans hlisted) hallowed.2 hclosed

end Announcements

/-- In every run that the socket allows, once it has closed, the end of the connection has been
announced as often as the events tell. -/
theorem run_announced {isRunning : Bool} {remoteCid remotePort : JsNumber} {unique : String}
    {createdMs activityMs : ℤ} {channel : VsockChannel} {events : List SocketEvent}
    (hconnect : VsockBridgeAdapter.connect isRunning remoteCid remotePort unique createdMs
      activityMs = .ok channel) (hallowed : Allowed sha256 (start channel) events)
    (hclosed : (run (step sha256) (start channel) events).closed = true) :
    (run (step sha256) (start channel) events).announced = announcements events := by
  refine announced_run_of_listed (lawful_start hconnect) ?_ hallowed hclosed
  exact (lawful_start hconnect).alive rfl

/-- The end of the connection is announced by the adapter and by the socket. -/
theorem run_announced_sample : ∃ channel, hiConnection = .ok channel ∧
    (run (step hiSha256) (start channel) closedAtOnce).announced = 2 := by
  obtain ⟨channel, hconnect, -⟩ := hiConnection_opens
  exact ⟨channel, hconnect, run_announced hconnect allowed_closedAtOnce rfl⟩

end Lifecycle

end UniverEscrow.Infrastructure
