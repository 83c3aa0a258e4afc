import NetTool.Node.Messages
import NetTool.Node.Client
import NetTool.Node.History
/-!
# Node.Isolation — peers that share a coordinator

Every connection of the Agent has a dispatcher of its own, bound to the peer that authenticated, and all of them work on
one coordinator, as the scheduler and the workers do.  So a peer is kept apart from the sessions of another one as far
as their commands name different sessions and operation IDs: then the commands of one peer change nothing about the
sessions of the other, and the other is answered the same without them.
-/
namespace NetTool
namespace Node

open Prog Speed Resource

/-! ## Connections that share a coordinator -/

/-- The session a call of the scheduler or of a worker is about.  A request comes over a connection. -/
def Call.worksOn : Call → Option SessionId
  | .request _ _ _ => none
  | .beginScheduled sid _ => some sid
  | .complete sid _ => some sid
  | .fail sid _ => some sid
  | call => call.handsOut

def Envelope.session (request : Envelope) : Option SessionId := request.message.bind ControlMessage.session

/-- The dispatchers of the connections, and the coordinator behind them. -/
structure System where
  services : Nat → NodeControlService
  coordinator : SessionCoordinator

/-- A message on a connection, or a call of the scheduler or of a worker. -/
inductive Event
  | receive (connection : Nat) (request : Envelope) (os : Os) (now : Nat)
  | work (call : Call) (sid : SessionId) (h : call.worksOn = some sid)

structure Exchange where
  request : Envelope
  answer : Envelope

namespace System

variable (build : Build) (ext : Externals)

def connection (sys : System) (k : Nat) : Connection := ⟨sys.services k, sys.coordinator⟩

def step (sys : System) : Event → System
  | .receive k request os now =>
    let answered := dispatch build request os now (sys.connection k)
    ⟨Function.update sys.services k answered.2.service, answered.2.coordinator⟩
  | .work call _ _ => { sys with coordinator := Node.step ext sys.coordinator call }

def run (sys : System) (events : List Event) : System := events.foldl (step build ext) sys

/-- What the peer asked about the sessions `own`, and was answered. -/
def exchanges (peers : Nat → Bytes 16) (peer : Bytes 16) (own : SessionId → Bool) : System → List Event → List Exchange
  | _, [] => []
  | sys, .receive k request os now :: events =>
    let rest := exchanges peers peer own (sys.step build ext (.receive k request os now)) events
    if peers k = peer ∧ request.session.any own then
      ⟨request, (dispatch build request os now (sys.connection k)).1⟩ :: rest
    else rest
  | sys, .work call sid h :: events => exchanges peers peer own (sys.step build ext (.work call sid h)) events

end System

/-! ## Isolation -/

def peerOf (services : Nat → NodeControlService) (k : Nat) : Bytes 16 := (services k).expectedPeerNodeId

def withoutPeer (peers : Nat → Bytes 16) (peer : Bytes 16) (events : List Event) : List Event :=
  events.filter fun
    | .receive k _ _ _ => peers k ≠ peer
    | .work _ _ _ => true

/-- A prepare was refused because a resource or its operation ID was taken. -/
def Exchange.conflictAtPrepare (x : Exchange) : Bool :=
  match x.request.message, x.answer.message with
  | some (.prepareTest _), some (.error e) =>
    e.code == ErrorCode.asStr .resourceConflict || e.code == ErrorCode.asStr .operationConflict
  | _, _ => false

/-- The same was answered, as far as no conflict at a prepare sets the two apart. -/
inductive SameAnswers : List Exchange → List Exchange → Prop
  | nil : SameAnswers [] []
  | same {xs ys : List Exchange} (x : Exchange) (h : SameAnswers xs ys) : SameAnswers (x :: xs) (x :: ys)
  | conflict {x y : Exchange} {xs ys : List Exchange} (hrequest : x.request = y.request)
    (hx : x.conflictAtPrepare = true) (hy : y.conflictAtPrepare = true) (h : SameAnswers xs ys) :
    SameAnswers (x :: xs) (y :: ys)
  | apart {x y : Exchange} (xs ys : List Exchange) (hrequest : x.request = y.request)
    (hconflict : x.conflictAtPrepare ≠ y.conflictAtPrepare) : SameAnswers (x :: xs) (y :: ys)

theorem SameAnswers.eq {xs ys : List Exchange} (h : SameAnswers xs ys) (hxs : xs.any Exchange.conflictAtPrepare = false)
    (hys : ys.any Exchange.conflictAtPrepare = false) : xs = ys := by
  induction h with
  | nil => rfl
  | same x _ ih =>
    rw [List.any_cons, Bool.or_eq_false_iff] at hxs hys
    rw [ih hxs.2 hys.2]
  | conflict _ hx _ _ _ =>
    rw [List.any_cons, hx] at hxs
    cases hxs
  | apart _ _ _ hconflict =>
    rw [List.any_cons, Bool.or_eq_false_iff] at hxs hys
    exact absurd (hxs.1.trans hys.1.symm) hconflict

/-- The commands of `other` do nothing to the sessions `own` of `mine` and show no result of theirs, and what `mine` is
answered about its sessions does not depend on these commands. -/
structure Isolated (build : Build) (ext : Externals) (services : Nat → NodeControlService) (mine other : Bytes 16)
    (own : SessionId → Bool) (events : List Event) : Prop where
  unchanged : SameAnswers ((System.mk services .new).exchanges build ext (peerOf services) mine own events)
    ((System.mk services .new).exchanges build ext (peerOf services) mine own
      (withoutPeer (peerOf services) other events))
  untouched : ∀ before k request os now after, events = before ++ .receive k request os now :: after →
    peerOf services k = other → ∀ sid, own sid = true →
      let c := ((System.mk services .new).run build ext before).coordinator
      let c' := ((System.mk services .new).run build ext (before ++ [.receive k request os now])).coordinator
      c'.session sid = c.session sid ∧ c'.results.lookup sid = c.results.lookup sid ∧
        c'.pendingResults.lookup sid = c.pendingResults.lookup sid
  unrevealed : ∀ before k request os now after, events = before ++ .receive k request os now :: after →
    peerOf services k = other → ∀ result,
      let sys := (System.mk services .new).run build ext before
      (dispatch build request os now (sys.connection k)).1.message = some (.testResult result) →
        ∃ sid, own sid = false ∧ sys.coordinator.results.lookup sid = some result

def Event.command : Event → Option (Nat × ControlMessage)
  | .receive k request _ _ => request.message.map (fun message => (k, message))
  | .work _ _ _ => none

/-- The sessions `own` are commanded by `peer` alone, and the operation IDs of their starts and stops serve no other
session. -/
structure Separate (peers : Nat → Bytes 16) (peer : Bytes 16) (own : SessionId → Bool) (events : List Event) :
    Prop where
  sessions : ∀ e ∈ events, ∀ k message sid, e.command = some (k, message) → message.session = some sid →
    own sid = true → peers k = peer
  operations : ∀ e ∈ events, ∀ e' ∈ events, ∀ k message sid k' message' sid' id, e.command = some (k, message) →
    e'.command = some (k', message') → message.session = some sid → own sid = true → message.isPrepare = false →
    message.operation = some id → message'.session = some sid' → message'.operation = some id → own sid' = true

/-! ## One step, in two runs -/

section
variable {build : Build} {ext : Externals} {own : SessionId → Bool} {held : String → Prop} {c c' : SessionCoordinator}
  {sid : SessionId} {request : Envelope} {message : ControlMessage} {os : Os} {now : Nat}

theorem work_agree {call : Call} (hg : Good True c) (h : Alike own held c c') (hcall : call.worksOn = some sid)
    (hown : own sid = true) : Alike own held (step ext c call) (step ext c' call) := by
  suffices hrun : Respects (Alike own held) (call.run ext) c c' from hrun.2
  cases call <;> cases hcall <;> refine .bind ?_ (fun _ _ _ h₁ => .pure _ h₁)
  case beginScheduled now => exact beginScheduled_agree h hown now
  case beginAndTakeDpdkReceiver now => exact beginAndTakeDpdkReceiver_agree h hown now
  case beginAndTakeBidirectional now => exact beginAndTakeBidirectional_agree h hown now
  case beginAndTakeReceiver now => exact beginAndTakeReceiver_agree h hown now
  case beginAndTakeSender now => exact beginAndTakeSender_agree h hown now
  case takeTcpListener => exact takeTcpListener_agree h hown
  case takeTcpSender => exact takeTcpSender_agree h hown
  case takeTcpBidirectional => exact takeTcpBidirectional_agree h hown
  case takeUdpSocket => exact takeUdpSocket_agree h hown
  case takeUdpSender => exact takeUdpSender_agree h hown
  case takeUdpBidirectional => exact takeUdpBidirectional_agree h hown
  case complete json => exact conclude_agree h hown hg ext _ _ _ json
  case fail json => exact conclude_agree h hown hg ext _ _ _ json

theorem work_alike {call : Call} (hg : Good True c) (hcall : call.worksOn = some sid) (hsid : own sid = false) :
    Alike own held c (step ext c call) := by
  suffices hrun : LeavesAlike own held (call.run ext) c from wp_state hrun
  cases call <;> cases hcall
  case beginScheduled now => exact (wp_bind _ _).2 (beginScheduled_leavesAlike hsid hg now)
  case complete json => exact (wp_bind _ _).2 (conclude_leavesAlike hsid hg ext _ completable (.inl rfl) json)
  case fail json => exact (wp_bind _ _).2 (conclude_leavesAlike hsid hg ext _ (fun _ h => h) (.inr rfl) json)
  all_goals exact handsOut_leavesAlike hsid hg ext rfl

theorem conflictAtPrepare_iff {k : Connection} (hmessage : request.message = some message) :
    (Exchange.mk request (dispatch build request os now k).1).conflictAtPrepare = true ↔
      Refused (Excused message) (dispatchMessage build request os now k).1 := by
  unfold Exchange.conflictAtPrepare dispatch
  rw [hmessage]
  cases message with
  | prepareTest prepare =>
    have hanswer : wp (dispatchMessage build request os now) (fun m _ => ∃ response, m = .prepareTestResponse response)
        (fun _ _ => True) k := by
      refine wp_dispatchMessage (fun _ => trivial) (fun hello hhello => ?_) (fun message hm => ?_)
      · rw [hmessage] at hhello
        cases hhello
      · rw [hmessage] at hm
        cases hm
        refine (wp_bind _ _).2 (wp_mono (wp_of_state (P := fun _ => True) trivial) ?_ (fun _ _ _ => trivial))
        exact fun response _ _ => ⟨response, rfl⟩
    -- the code in an error message tells a conflict
    have hcode : ∀ code : ErrorCode, (code.asStr == ErrorCode.asStr .resourceConflict ||
        code.asStr == ErrorCode.asStr .operationConflict) = true ↔ code = .resourceConflict ∨
          code = .operationConflict := by
      intro code
      cases code <;> decide
    unfold wp at hanswer
    rcases hdispatch : dispatchMessage build request os now k with ⟨e | m, k'⟩ <;> rw [hdispatch] at hanswer
    · refine (hcode e.code).trans (Iff.trans ?_ refused_error.symm)
      exact (and_iff_right rfl).symm
    · obtain ⟨response, rfl⟩ := hanswer
      exact iff_of_false Bool.false_ne_true (not_refused_ok _)
  | _ =>
    refine iff_of_false Bool.false_ne_true ?_
    rintro ⟨e, -, hprepare, -⟩
    cases hprepare

/-- A command about a session of the group, on two connections that are alike: the answers are the same and what is left
is alike, unless a conflict stops a prepare on one of them only. -/
theorem dispatch_agree {k k' : Connection} (h : AlikeConnections own held k k') (hg : Good True k.coordinator)
    (hmessage : request.message = some message) (hsession : message.session = some sid) (hown : own sid = true)
    (hheld : message.isPrepare = false → ∀ id, message.operation = some id → held id)
    (hconflict : (Exchange.mk request (dispatch build request os now k).1).conflictAtPrepare =
      (Exchange.mk request (dispatch build request os now k').1).conflictAtPrepare) :
    ((Exchange.mk request (dispatch build request os now k).1).conflictAtPrepare = false →
      (dispatch build request os now k).1 = (dispatch build request os now k').1) ∧
    AlikeConnections own held (dispatch build request os now k).2 (dispatch build request os now k').2 := by
  have hiff : Refused (Excused message) (dispatchMessage build request os now k).1 ↔
      Refused (Excused message) (dispatchMessage build request os now k').1 := by
    rw [← conflictAtPrepare_iff hmessage, ← conflictAtPrepare_iff hmessage, hconflict]
  have hagree : RespectsBut (Excused message) (AlikeConnections own held) (dispatchMessage build request os now) k k' :=
    dispatchMessage_agreeBut h hg hmessage hsession hown hheld
  obtain ⟨hanswer, hleft⟩ := hagree hiff
  refine ⟨fun hnone => ?_, hleft⟩
  have hnot : ¬ Refused (Excused message) (dispatchMessage build request os now k).1 := by
    rw [← conflictAtPrepare_iff hmessage, hnone]
    exact Bool.false_ne_true
  unfold dispatch
  dsimp only
  rw [hanswer hnot, hleft.1]

/-! ## Runs with and without the commands of a peer -/

section
variable {peers : Nat → Bytes 16} {mine other : Bytes 16} {sys sys' : System} {k : Nat}

/-- How the event fits a group of sessions that `mine` commands, whose starts and stops use the operation IDs `held`. -/
def Event.Fits (peers : Nat → Bytes 16) (mine : Bytes 16) (own : SessionId → Bool) (held : String → Prop) (e : Event) :
    Prop :=
  ∀ k message sid, e.command = some (k, message) → message.session = some sid →
    (own sid = true → peers k = mine ∧ (message.isPrepare = false → ∀ id, message.operation = some id → held id)) ∧
    (own sid = false → ∀ id, message.operation = some id → ¬ held id)

/-- The runs with and without the commands of `other`: the connections of the rest and the sessions `own` are the same.
-/
structure Related (peers : Nat → Bytes 16) (other : Bytes 16) (own : SessionId → Bool) (held : String → Prop)
    (sys sys' : System) : Prop where
  services : ∀ k, peers k ≠ other → sys.services k = sys'.services k
  alike : Alike own held sys.coordinator sys'.coordinator
  good : Good True sys.coordinator
  good' : Good True sys'.coordinator

theorem command_receive (hmessage : request.message = some message) :
    (Event.receive k request os now).command = some (k, message) := congrArg (Option.map _) hmessage

theorem session_any (hmessage : request.message = some message) (hsession : message.session = some sid) :
    request.session.any own = own sid := by
  unfold Envelope.session
  rw [hmessage, Option.bind_some, hsession]
  rfl

theorem named_of_any (h : request.session.any own = true) :
    ∃ message sid, request.message = some message ∧ message.session = some sid ∧ own sid = true := by
  obtain ⟨sid, hsid, hown⟩ := (Option.any_eq_true _ _).1 h
  obtain ⟨message, hmessage, hsession⟩ := Option.bind_eq_some_iff.1 hsid
  exact ⟨message, sid, hmessage, hsession, hown⟩

theorem exchanges_named (hk : peers k = mine) (h : request.session.any own = true) (events : List Event) :
    sys.exchanges build ext peers mine own (.receive k request os now :: events) =
      ⟨request, (dispatch build request os now (sys.connection k)).1⟩ ::
        (sys.step build ext (.receive k request os now)).exchanges build ext peers mine own events := if_pos ⟨hk, h⟩

theorem exchanges_unnamed (h : request.session.any own = false) (events : List Event) :
    sys.exchanges build ext peers mine own (.receive k request os now :: events) =
      (sys.step build ext (.receive k request os now)).exchanges build ext peers mine own events :=
  if_neg (fun h' => Bool.false_ne_true (h.symm.trans h'.2))

section
variable (hg : Good True sys.coordinator)
include hg

theorem step_good (e : Event) : Good True (sys.step build ext e).coordinator := by
  cases e with
  | receive k request os now =>
    have hacts : Acts True sys.coordinator (sys.step build ext (.receive k request os now)).coordinator :=
      dispatch_leaves (.refl _) (fun _ sid id _ _ _ => after_acts hg os sid id)
    exact hg.effect hacts.1 hacts.2
  | work call sid h =>
    have hacts := step_acts hg ext call (fun _ => trivial)
    exact hg.effect hacts.1 hacts.2

theorem run_good (events : List Event) : Good True (sys.run build ext events).coordinator := by
  induction events generalizing sys with
  | nil => exact hg
  | cons e events ih => exact ih (step_good hg e)

theorem foreign_alike (hfits : (Event.receive k request os now).Fits peers mine own held)
    (hforeign : request.session.any own = false) :
    Alike own held sys.coordinator (sys.step build ext (.receive k request os now)).coordinator := by
  refine dispatch_leaves (.refl _) (fun message sid id hmessage hsession hoperation => ?_)
  have hsid : own sid = false := (session_any hmessage hsession).symm.trans hforeign
  exact after_alike hg hsid ((hfits k message sid (command_receive hmessage) hsession).2 hsid id hoperation)

end

namespace Related

section
variable (h : Related peers other own held sys sys')
include h

theorem work {call : Call} {sid : SessionId} (hcall : call.worksOn = some sid) :
    Related peers other own held (sys.step build ext (.work call sid hcall))
      (sys'.step build ext (.work call sid hcall)) where
  services := h.services
  alike := by
    cases hown : own sid with
    | true => exact work_agree h.good h.alike hcall hown
    | false => exact (work_alike h.good hcall hown).symm.trans (h.alike.trans (work_alike h.good' hcall hown))
  good := step_good h.good _
  good' := step_good h.good' _

/-- A command of the peer, which the second run does not have. -/
theorem deleted (hk : peers k = other) (hfits : (Event.receive k request os now).Fits peers mine own held)
    (hforeign : request.session.any own = false) :
    Related peers other own held (sys.step build ext (.receive k request os now)) sys' where
  services := by
    intro j hj
    have hjk : j ≠ k := fun hjk => hj (hjk ▸ hk)
    exact (Function.update_of_ne hjk _ _).trans (h.services j hj)
  alike := (foreign_alike h.good hfits hforeign).symm.trans h.alike
  good := step_good h.good _
  good' := h.good'

theorem services_step (hk : peers k ≠ other) (j : Nat) (hj : peers j ≠ other) :
    (sys.step build ext (.receive k request os now)).services j =
      (sys'.step build ext (.receive k request os now)).services j := by
  have hservice : (dispatch build request os now (sys.connection k)).2.service =
      (dispatch build request os now (sys'.connection k)).2.service := by
    unfold System.connection
    rw [h.services k hk]
    exact dispatch_service _ _
  show Function.update sys.services k _ j = Function.update sys'.services k _ j
  rw [hservice]
  by_cases hjk : j = k
  · rw [hjk, Function.update_self, Function.update_self]
  · rw [Function.update_of_ne hjk, Function.update_of_ne hjk, h.services j hj]

theorem foreign (hk : peers k ≠ other) (hfits : (Event.receive k request os now).Fits peers mine own held)
    (hforeign : request.session.any own = false) :
    Related peers other own held (sys.step build ext (.receive k request os now))
      (sys'.step build ext (.receive k request os now)) where
  services := h.services_step hk
  alike := (foreign_alike h.good hfits hforeign).symm.trans (h.alike.trans (foreign_alike h.good' hfits hforeign))
  good := step_good h.good _
  good' := step_good h.good' _

theorem connections (hk : peers k ≠ other) :
    AlikeConnections own held (sys.connection k) (sys'.connection k) := ⟨h.services k hk, h.alike⟩

end

end Related

variable {events : List Event} {connection : Connection}

/-- **With or without the other's commands, the same is answered about the sessions.** -/
theorem exchanges_same (hne : mine ≠ other) (h : Related peers other own held sys sys')
    (hfits : ∀ e ∈ events, e.Fits peers mine own held) :
    SameAnswers (sys.exchanges build ext peers mine own events)
      (sys'.exchanges build ext peers mine own (withoutPeer peers other events)) := by
  induction events generalizing sys sys' with
  | nil => exact .nil
  | cons e events ih =>
    have hrest : ∀ e ∈ events, e.Fits peers mine own held := fun e he => hfits e (.tail _ he)
    have hhead := hfits e (.head _)
    cases e with
    | work call sid hcall => exact ih (h.work hcall) hrest
    | receive k request os now =>
      have hkept : peers k ≠ other →
          withoutPeer peers other (.receive k request os now :: events) =
            .receive k request os now :: withoutPeer peers other events :=
        fun hk => List.filter_cons_of_pos (decide_eq_true hk)
      cases hown : request.session.any own with
      | true =>
        obtain ⟨message, sid, hmessage, hsession, hsid⟩ := named_of_any hown
        obtain ⟨hmine, hheld⟩ := (hhead k message sid (command_receive hmessage) hsession).1 hsid
        have hk : peers k ≠ other := fun hk => hne (hmine.symm.trans hk)
        rw [hkept hk, exchanges_named hmine hown, exchanges_named hmine hown]
        by_cases hconflict :
            (Exchange.mk request (dispatch build request os now (sys.connection k)).1).conflictAtPrepare =
              (Exchange.mk request (dispatch build request os now (sys'.connection k)).1).conflictAtPrepare
        · obtain ⟨hanswer, hleft⟩ := dispatch_agree (h.connections hk) h.good hmessage hsession hsid hheld hconflict
          have hnext : Related peers other own held (sys.step build ext (.receive k request os now))
              (sys'.step build ext (.receive k request os now)) :=
            ⟨h.services_step hk, hleft.2, step_good h.good _, step_good h.good' _⟩
          cases hflag :
            (Exchange.mk request (dispatch build request os now (sys.connection k)).1).conflictAtPrepare with
          | false =>
            rw [hanswer hflag]
            exact .same _ (ih hnext hrest)
          | true => exact .conflict rfl hflag (hconflict.symm.trans hflag) (ih hnext hrest)
        · exact .apart _ _ rfl hconflict
      | false =>
        rw [exchanges_unnamed hown]
        by_cases hk : peers k = other
        · have hdropped : withoutPeer peers other (.receive k request os now :: events) =
            withoutPeer peers other events :=
            List.filter_cons_of_neg (fun hne => of_decide_eq_true hne hk)
          rw [hdropped]
          exact ih (h.deleted hk hhead hown) hrest
        · rw [hkept hk, exchanges_unnamed hown]
          exact ih (h.foreign hk hhead hown) hrest

/-! ## Peers that keep to their own sessions -/

def heldIn (own : SessionId → Bool) (events : List Event) (id : String) : Prop :=
  ∃ e ∈ events, ∃ k message sid, e.command = some (k, message) ∧ message.session = some sid ∧ own sid = true ∧
    message.isPrepare = false ∧ message.operation = some id

theorem Separate.fits (h : Separate peers mine own events) :
    ∀ e ∈ events, e.Fits peers mine own (heldIn own events) := by
  intro e he k message sid hcommand hsession
  refine ⟨fun hown => ⟨h.sessions e he k message sid hcommand hsession hown, fun hprepare id hid => ?_⟩,
    fun hown id hid hheld => ?_⟩
  · exact ⟨e, he, k, message, sid, hcommand, hsession, hown, hprepare, hid⟩
  · obtain ⟨e', he', k', message', sid', hcommand', hsession', hown', hprepare, hid'⟩ := hheld
    have hmine := h.operations e' he' e he k' message' sid' k message sid id hcommand' hcommand hsession' hown' hprepare
      hid' hsession hid
    rw [hown] at hmine
    cases hmine

theorem Separate.unnamed (h : Separate peers mine own events) (hne : mine ≠ other)
    (he : Event.receive k request os now ∈ events) (hk : peers k = other) : request.session.any own = false := by
  cases hany : request.session.any own with
  | false => rfl
  | true =>
    obtain ⟨message, sid, hmessage, hsession, hown⟩ := named_of_any hany
    exact absurd ((h.sessions _ he k message sid (command_receive hmessage) hsession hown).symm.trans hk) hne

/-- A result is shown to whom asks for the session it is of. -/
theorem wp_shown_result :
    wp (dispatchMessage build request os now) (fun m _ => ∀ result, m = .testResult result →
      ∃ message sid, request.message = some message ∧ message.session = some sid ∧
        connection.coordinator.results.lookup sid = some result) (fun _ _ => True) connection := by
  -- Every other answer is of another kind.
  have hother : ∀ {α : Type} (m : Dispatch α) {f : α → ControlMessage}, (∀ a result, f a ≠ .testResult result) →
      wp (do let a ← m; pure (f a)) (fun m _ => ∀ result, m = .testResult result →
        ∃ message sid, request.message = some message ∧ message.session = some sid ∧
          connection.coordinator.results.lookup sid = some result) (fun _ _ => True) connection := by
    intro α m f hf
    refine (wp_bind _ _).2 (wp_mono (wp_of_state (P := fun _ => True) trivial) ?_ (fun _ _ _ => trivial))
    exact fun a _ _ result hshown => absurd hshown (hf a result)
  refine wp_dispatchMessage (fun _ => trivial) (fun hello _ => ?_) (fun message hmessage => ?_)
  · unfold handleHello
    rw [wp_bind]
    simp only [wp_ite]
    refine ⟨fun _ => trivial, fun _ => ⟨fun _ => trivial, fun _ => ⟨fun _ => trivial, fun _ => ?_⟩⟩⟩
    exact hother _ (fun _ _ hshown => (by cases hshown))
  · cases message with
    | prepareTest prepare => exact hother _ (fun _ _ hshown => (by cases hshown))
    | startTest r
    | stopTest r =>
      refine wp_check (fun sid _ => ?_) (fun _ _ => trivial)
      exact hother _ (fun _ _ hshown => (by cases hshown))
    | testResultRequest sessionId =>
      refine wp_check (fun sid hparse => ?_) (fun _ _ => trivial)
      refine (wp_bind _ _).2
        ((wp_bind _ _).2 ((wp_ofExcept _).2 ⟨fun found hfound result hshown => ?_, fun _ _ => trivial⟩))
      cases hshown
      exact ⟨_, sid, hmessage, toOption_of_ok hparse, testResult_ok.1 hfound⟩
    | _ => first | trivial | exact fun _ hshown => (by cases hshown)

theorem shown_result {result : TestResult}
    (h : (dispatch build request os now connection).1.message = some (.testResult result)) :
    ∃ message sid, request.message = some message ∧ message.session = some sid ∧
      connection.coordinator.results.lookup sid = some result := by
  have hwp : wp (dispatchMessage build request os now) _ _ connection := wp_shown_result
  unfold wp at hwp
  unfold dispatch at h
  rcases hdispatch : dispatchMessage build request os now connection with ⟨e | m, k'⟩ <;> rw [hdispatch] at hwp h
  · cases h
  · exact hwp result (Option.some.inj h)

/-- **Peers that keep to sessions and operation IDs of their own are isolated.**  In every run from a coordinator
without sessions, over any connections: where one peer alone commands the sessions `own`, and no command on another
session uses the operation ID of a start or a stop of theirs, the commands of any other peer do not reach them. -/
theorem separate_peers_isolated (build : Build) (ext : Externals) (services : Nat → NodeControlService)
    {mine other : Bytes 16} (hne : mine ≠ other) {own : SessionId → Bool} {events : List Event}
    (h : Separate (peerOf services) mine own events) : Isolated build ext services mine other own events where
  unchanged := exchanges_same hne ⟨fun _ _ => rfl, .refl _, good_new True, good_new True⟩ h.fits
  untouched := by
    rintro before k request os now after rfl hk sid hown
    have he : Event.receive k request os now ∈ before ++ .receive k request os now :: after :=
      List.mem_append_right _ (.head _)
    have hg : Good True ((System.mk services .new).run build ext before).coordinator := run_good (good_new True) before
    have halike : Alike own _ _ (System.step build ext _ (.receive k request os now)).coordinator :=
      foreign_alike hg (h.fits _ he) (h.unnamed hne he hk)
    have hrun : (System.mk services .new).run build ext (before ++ [.receive k request os now]) =
        ((System.mk services .new).run build ext before).step build ext (.receive k request os now) :=
          List.foldl_concat _ _ _ _
    rw [hrun]
    exact ⟨(halike.session hown).symm, (halike.results hown).symm, (halike.pending hown).symm⟩
  unrevealed := by
    rintro before k request os now after rfl hk result sys hshown
    have he : Event.receive k request os now ∈ before ++ .receive k request os now :: after :=
      List.mem_append_right _ (.head _)
    obtain ⟨message, sid, hmessage, hsession, hresult⟩ := shown_result hshown
    exact ⟨sid, (session_any hmessage hsession).symm.trans (h.unnamed hne he hk), hresult⟩

end

end

/-! Two peers, and their commands: the second prepares session 8, and stops a session before the first starts session 7.
-/

def firstPeer : Bytes 16 := Bytes.replicate 16 1

def secondPeer : Bytes 16 := Bytes.replicate 16 4

def sampleServices (k : Nat) : NodeControlService :=
  { sampleService with expectedPeerNodeId := if k = 0 then firstPeer else secondPeer }

def fromPeer (k : Nat) (message : ControlMessage) : Event :=
  .receive k ⟨1, 0, List.replicate 16 3, some message⟩
    { sampleOs with localAddr := .ok (.v4 0x7f000001#32 (40000 + UInt16.ofNat k)) } 0

def sampleHello (peer : Bytes 16) : ControlMessage := .helloRequest ⟨peer.1, "peer", 0, 0⟩

def samplePrepare (n : UInt8) (operationId : String) : ControlMessage :=
  .prepareTest ⟨(sampleId n).1, operationId, "tcp", "socket", "upload", 1000, 0, 0, 1, 0, 1024, 0, 1500, 0,
    0, "", "", ""⟩

def sampleCommands (stopped : UInt8) : List Event :=
  [fromPeer 0 (sampleHello firstPeer), fromPeer 1 (sampleHello secondPeer), fromPeer 0 (samplePrepare 7 "prepare-7"),
    fromPeer 1 (samplePrepare 8 "prepare-8"), fromPeer 1 (.stopTest ⟨(sampleId stopped).1, "stop-8"⟩),
    fromPeer 0 (.startTest ⟨(sampleId 7).1, "start-7", 2000000000⟩)]

def sampleOwn (sid : SessionId) : Bool := sid == sampleId 7

theorem sampleCommands_separate : Separate (peerOf sampleServices) firstPeer sampleOwn (sampleCommands 8) := by
  have hsessions : ∀ e ∈ sampleCommands 8, ∀ p ∈ e.command, ∀ sid ∈ p.2.session, sampleOwn sid = true →
      peerOf sampleServices p.1 = firstPeer := by decide
  have hstart : ∀ e ∈ sampleCommands 8, ∀ p ∈ e.command, ∀ sid ∈ p.2.session, sampleOwn sid = true →
      p.2.isPrepare = false → ∀ id ∈ p.2.operation, id = "start-7" := by decide
  have hused : ∀ e ∈ sampleCommands 8, ∀ p ∈ e.command, ∀ sid ∈ p.2.session, p.2.operation = some "start-7" →
      sampleOwn sid = true := by decide
  constructor
  · intro e he k message sid hcommand hsession
    exact hsessions e he (k, message) hcommand sid hsession
  · intro e he e' he' k message sid k' message' sid' id hcommand hcommand' hsession hown hprepare hid hsession' hid'
    rw [hstart e he (k, message) hcommand sid hsession hown hprepare id hid] at hid'
    exact hused e' he' (k', message') hcommand' sid' hsession' hid'

theorem separate_peers_isolated_sample :
    (firstPeer ≠ secondPeer ∧ Separate (peerOf sampleServices) firstPeer sampleOwn (sampleCommands 8)) ∧
    Isolated Build.current sampleExternals sampleServices firstPeer secondPeer sampleOwn (sampleCommands 8) := by
  have hne : firstPeer ≠ secondPeer := by decide
  exact ⟨⟨hne, sampleCommands_separate⟩, separate_peers_isolated _ _ _ hne sampleCommands_separate⟩

/-- The second peer stops the session of the first by its ID, and the first finds it canceled. -/
theorem stopped_by_another_peer :
    firstPeer ≠ secondPeer ∧
    ((System.mk sampleServices .new).exchanges Build.current sampleExternals (peerOf sampleServices) firstPeer sampleOwn
      (sampleCommands 7)).map (·.answer.message) =
      [some (.prepareTestResponse ⟨true, 40000, hexString (List.replicate 32 0xab), 0⟩),
        some (.error ⟨"ACTION.INVALID_STATE", "session is not ready", false⟩)] ∧
    ((System.mk sampleServices .new).exchanges Build.current sampleExternals (peerOf sampleServices) firstPeer sampleOwn
      (withoutPeer (peerOf sampleServices) secondPeer (sampleCommands 7))).map (·.answer.message) =
      [some (.prepareTestResponse ⟨true, 40000, hexString (List.replicate 32 0xab), 0⟩),
        some (.testStatus ⟨List.replicate 16 7, "TEST_READY"⟩)] ∧
    ¬ Isolated Build.current sampleExternals sampleServices firstPeer secondPeer sampleOwn (sampleCommands 7) := by
  refine ⟨by decide, by decide, by decide, fun h => ?_⟩
  have hsame := congrArg (List.map (·.answer.message)) (h.unchanged.eq (by decide) (by decide))
  exact absurd hsame (by decide)

end Node
end NetTool
