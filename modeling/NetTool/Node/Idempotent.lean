import NetTool.Node.Reservations
/-!
# Node.Idempotent — the operation log answers repeated requests

An operation ID keeps its record for good, so whatever happens in between, the same request under the same ID gets the
response it got, any other request under that ID is refused, and neither changes anything.
-/
namespace NetTool
namespace Node

open Prog Speed Resource Request

variable {orphans : Prop} {c : SessionCoordinator}

/-- The request a record was made for, under its ID. -/
def OperationRecord.request (id : String) : OperationRecord → Request
  | .prepareTcp stored _ => .prepareTcp stored
  | .prepareTcpSender stored _ => .prepareTcpSender stored
  | .prepareTcpBidirectional stored _ => .prepareTcpBidirectional stored
  | .prepareUdp stored _ => .prepareUdp stored
  | .prepareUdpSender stored _ => .prepareUdpSender stored
  | .prepareUdpBidirectional stored _ => .prepareUdpBidirectional stored
  | .prepareDpdkReceiver stored _ => .prepareDpdkReceiver stored
  | .start sid startAt _ => .start sid id startAt
  | .stop sid _ => .stop sid id

def OperationRecord.response : OperationRecord → Response
  | .prepareTcp _ response => .tcp response
  | .prepareTcpSender _ response => .tcp response
  | .prepareTcpBidirectional _ response => .tcp response
  | .prepareUdp _ response => .udp response
  | .prepareUdpSender _ response => .udp response
  | .prepareUdpBidirectional _ response => .udp response
  | .prepareDpdkReceiver _ plan => .dpdk plan
  | .start _ _ state => .state state
  | .stop _ state => .state state

def OperationRecord.answers (record : OperationRecord) (r : Request) : Option Response :=
  if record.request r.operationId = r then some record.response else none

variable {record : OperationRecord} {Endpoint Reply : Type} {id : String} {c' : SessionCoordinator}

/-- **A record answers one request under its ID.** -/
theorem OperationRecord.answers_unique {r r' : Request} {response : Response} (h : record.answers r = some response)
    (hid : r'.operationId = r.operationId) : record.answers r' = if r' = r then some response else none := by
  unfold answers at h ⊢
  by_cases hr : record.request r.operationId = r
  · rw [if_pos hr] at h
    rw [hid, hr, h]
    by_cases heq : r = r'
    · rw [if_pos heq, if_pos heq.symm]
    · rw [if_neg heq, if_neg (Ne.symm heq)]
  · rw [if_neg hr] at h
    cases h

/-! ## A request whose ID is recorded -/

theorem prepare_recorded {p : Preparation Endpoint Reply} (h : c.operations.lookup p.operationId = some record)
    (os : Os) (now : Nat) : prepare p os now c = ofOption operationConflict (p.matching record) c := by
  unfold prepare
  rw [get_bind, h]

theorem reply_eq {α : Type} {m : Coord α} {o : Option α} (f : α → Response) (h : m c = ofOption operationConflict o c) :
    (do pure (f (← m)) : Coord Response) c = ofOption operationConflict (o.map f) c := by
  show Prog.bind m _ c = _
  unfold Prog.bind
  rw [h]
  cases o <;> rfl

/-- What each request looks for in a record. -/
def Request.found (record : OperationRecord) : Request → Option Response
  | .prepareTcp r => ((tcpPreparation r).matching record).map .tcp
  | .prepareTcpSender r => ((tcpSenderPreparation r).matching record).map .tcp
  | .prepareTcpBidirectional r => ((tcpBidirectionalPreparation r).matching record).map .tcp
  | .prepareUdp r => ((udpPreparation r).matching record).map .udp
  | .prepareUdpSender r => ((udpSenderPreparation r).matching record).map .udp
  | .prepareUdpBidirectional r => ((udpBidirectionalPreparation r).matching record).map .udp
  | .prepareDpdkReceiver r => (matchingDpdk r record).map .dpdk
  | .start sid _ startAt => (matchingStart sid startAt record).map .state
  | .stop sid _ => (matchingStop sid record).map .state

theorem Request.found_eq (r : Request) (record : OperationRecord) : r.found record = record.answers r := by
  cases r <;> cases record <;> simp only [found, tcpPreparation, tcpSenderPreparation, tcpBidirectionalPreparation,
    udpPreparation, udpSenderPreparation, udpBidirectionalPreparation, matchingDpdk, matchingStart, matchingStop,
    operationId, OperationRecord.answers, OperationRecord.request, OperationRecord.response, prepareTcp.injEq,
    prepareTcpSender.injEq, prepareTcpBidirectional.injEq, prepareUdp.injEq,
    prepareUdpSender.injEq, prepareUdpBidirectional.injEq, prepareDpdkReceiver.injEq, start.injEq,
      stop.injEq, reduceCtorEq,
    ↓reduceIte, Option.map_none, true_and, and_true]
  all_goals split <;> rfl

theorem answer_recorded {r : Request} (h : c.operations.lookup r.operationId = some record) (os : Os) (now : Nat) :
    r.answer os now c = ofOption operationConflict (record.answers r) c := by
  rw [← r.found_eq record]
  cases r with
  | prepareTcp r
  | prepareTcpSender r
  | prepareTcpBidirectional r => exact reply_eq .tcp (prepare_recorded h os _)
  | prepareUdp r
  | prepareUdpSender r
  | prepareUdpBidirectional r => exact reply_eq .udp (prepare_recorded h os _)
  | prepareDpdkReceiver r =>
    refine reply_eq .dpdk ?_
    rw [prepareDpdkReceiver, get_bind, show c.operations.lookup r.operationId = _ from h]
  | start sid id startAt =>
    refine reply_eq .state ?_
    rw [start, get_bind, show c.operations.lookup id = _ from h]
  | stop sid id =>
    refine reply_eq .state ?_
    rw [stop, get_bind, show c.operations.lookup id = _ from h]

/-! ## A request that was answered -/

theorem prepare_records {p : Preparation Endpoint Reply} (hp : p.Known) (f : Reply → Response) (os : Os) (now : Nat) :
    wp (prepare p os now >>= fun a => pure (f a))
      (fun a c' => ∃ record, c'.operations.lookup p.operationId = some record ∧ (p.matching record).map f = some a)
      (fun _ _ => True) c := by
  refine wp_then (wp_prepare p os now c) ?_ (fun _ _ _ => trivial)
  rintro a c' (⟨rfl, record, hop, hmatch⟩ | ⟨expiresAt, endpoint, tag, r, m, h⟩)
  · exact ⟨record, hop, by rw [hmatch]; rfl⟩
  · refine ⟨_, ?_, by rw [hp.sound.record, h.response]; rfl⟩
    rw [h.state]
    exact (Table.lookup_put _ _ _ _).trans (if_pos rfl)

/-- **A start that was accepted is in the log.** -/
theorem start_recorded_of_ok (hg : Good orphans c) (sid : SessionId) (id : String) (startAt now : Nat) :
    wp (start sid id startAt now) (fun state c' => c'.operations.lookup id = some (.start sid startAt state))
      (fun _ _ => True) c := by
  refine wp_mono (wp_start hg sid id startAt now) ?_ (fun _ _ _ => trivial)
  rintro state c' (⟨rfl, record, hop, hmatch⟩ | ⟨-, s, scheduled, -, -, rfl, rfl⟩)
  · cases record with
    | start sid' startAt' state' =>
      simp only [matchingStart] at hmatch
      by_cases hsame : sid' = sid ∧ startAt' = startAt
      · rw [if_pos hsame, Option.some.injEq] at hmatch
        rw [hop, hsame.1, hsame.2, hmatch]
      · rw [if_neg hsame] at hmatch; cases hmatch
    | _ => cases hmatch
  · exact (Table.lookup_put _ _ _ _).trans (if_pos rfl)

/-- **A request that is answered has its answer in the log.** -/
theorem answer_records (hg : Good orphans c) (r : Request) (os : Os) (now : Nat) :
    wp (r.answer os now) (fun a c' => ∃ record, c'.operations.lookup r.operationId = some record ∧
      record.answers r = some a) (fun _ _ => True) c := by
  simp only [← r.found_eq]
  cases r with
  | prepareTcp r => exact prepare_records (.tcp r) .tcp os _
  | prepareTcpSender r => exact prepare_records (.tcpSender r) .tcp os _
  | prepareTcpBidirectional r => exact prepare_records (.tcpBidirectional r) .tcp os _
  | prepareUdp r => exact prepare_records (.udp r) .udp os _
  | prepareUdpSender r => exact prepare_records (.udpSender r) .udp os _
  | prepareUdpBidirectional r => exact prepare_records (.udpBidirectional r) .udp os _
  | prepareDpdkReceiver r =>
    refine wp_then (wp_prepareDpdkReceiver r os _ c) ?_ (fun _ _ _ => trivial)
    rintro a c' (⟨rfl, record, hop, hmatch⟩ | ⟨expiresAt, tag, _, m, h⟩)
    · exact ⟨record, hop, by rw [found, hmatch]; rfl⟩
    · refine ⟨.prepareDpdkReceiver r (dpdkPlan r), ?_, ?_⟩
      · rw [h.state]
        exact (Table.lookup_put _ _ _ _).trans (if_pos rfl)
      · rw [h.response]
        simp [found, matchingDpdk, dpdkPreparation]
  | start sid id startAt =>
    exact wp_then (start_recorded_of_ok hg sid id startAt now) (fun _ _ hop => ⟨_, hop, by simp [found, matchingStart]⟩)
      (fun _ _ _ => trivial)
  | stop sid id =>
    refine wp_then (wp_stop hg sid id) ?_ (fun _ _ _ => trivial)
    rintro a c' (⟨rfl, record, hop, hmatch⟩ | ⟨-, rfl, hops, -⟩)
    · exact ⟨record, hop, by rw [found, hmatch]; rfl⟩
    · refine ⟨.stop sid .canceled, ?_, by simp [found, matchingStop]⟩
      rw [hops, operationId, Table.lookup_put, if_pos rfl]

/-! ## Runs -/

theorem Logs.lookup (h : Logs c c') (hop : c.operations.lookup id = some record) :
    c'.operations.lookup id = some record := by
  cases h with
  | keep hops => rw [hops]; exact hop
  | add id' record' hnew hops _ =>
    have hne : id ≠ id' := fun heq => by rw [heq, hnew] at hop; cases hop
    rw [hops, Table.lookup_put, if_neg hne]
    exact hop

/-- **A record stays.** -/
theorem recorded_stays {ext : Externals} {ok : SessionCoordinator → Call → Prop} (hg : Good True c)
    (hop : c.operations.lookup id = some record) (hrun : Reach c (step ext) ok c') :
    c'.operations.lookup id = some record := by
  have hinv : Good True c' ∧ c'.operations.lookup id = some record := by
    apply Reach.invariant ⟨hg, hop⟩ _ hrun
    rintro c₁ call ⟨hg₁, hop₁⟩ _
    obtain ⟨heffect, hlogs⟩ := step_acts hg₁ ext call (fun _ => trivial)
    exact ⟨hg₁.effect heffect hlogs, hlogs.lookup hop₁⟩
  exact hinv.2

/-- **An answered request is answered the same way ever after, and its ID serves no other request.** -/
theorem answered_request_is_final {ext : Externals} {c c' : SessionCoordinator} {r : Request} {response : Response}
    {os : Os} {now : Nat} (h : Reachable ext (fun _ => True) c) (hanswer : (r.answer os now c).1 = .ok response)
    (hrun : Reach (r.answer os now c).2 (step ext) (fun _ _ => True) c') (r' : Request)
    (hid : r'.operationId = r.operationId) (os' : Os) (now' : Nat) :
    r'.answer os' now' c' = if r' = r then (.ok response, c') else (.error operationConflict, c') := by
  have hg : Good True c := reachable_good h (fun _ _ _ => trivial)
  have hcall : r.answer os now c = (.ok response, (r.answer os now c).2) := Prod.ext hanswer rfl
  obtain ⟨record, hop, hmatch⟩ := wp_ok (answer_records hg r os now) hcall
  obtain ⟨heffect, hlogs⟩ := (wp_ok (answer_replies hg r os now) hcall).acts hg (fun _ => trivial)
  have hop' := recorded_stays (hg.effect heffect hlogs) hop hrun
  rw [← hid] at hop'
  rw [answer_recorded hop' os' now', OperationRecord.answers_unique hmatch hid]
  by_cases heq : r' = r
  · rw [if_pos heq, if_pos heq]; rfl
  · rw [if_neg heq, if_neg heq]; rfl

/-! A session that is prepared, then stopped; its prepare is sent again, and its ID is used for another request. -/

def sampleResponse : PrepareTcpResponse := ⟨sampleId 1, 40000, hexString (List.replicate 32 0xab), 30, .testReady⟩

def sampleStopped : SessionCoordinator :=
  step sampleExternals ((Request.prepareTcp sampleTcp).answer sampleOs 0 .new).2
    (.request (.stop (sampleId 1) "stop-1") sampleOs 0)

theorem answered_request_is_final_sample :
    (Request.prepareTcp sampleTcp).answer sampleOs 7000000000 sampleStopped =
      (.ok (.tcp sampleResponse), sampleStopped) ∧
    (Request.stop (sampleId 1) "prepare-1").answer sampleOs 0 sampleStopped =
      (.error operationConflict, sampleStopped) := by
  have hanswer : ((Request.prepareTcp sampleTcp).answer sampleOs 0 .new).1 = .ok (.tcp sampleResponse) := by decide
  have hrun : Reach ((Request.prepareTcp sampleTcp).answer sampleOs 0 .new).2 (step sampleExternals) (fun _ _ => True)
      sampleStopped := .step _ .init trivial
  exact ⟨(answered_request_is_final .init hanswer hrun (.prepareTcp sampleTcp) rfl sampleOs
    7000000000).trans (if_pos rfl),
    (answered_request_is_final .init hanswer hrun (.stop (sampleId 1) "prepare-1") rfl sampleOs 0).trans
      (if_neg (by decide))⟩

end Node
end NetTool
