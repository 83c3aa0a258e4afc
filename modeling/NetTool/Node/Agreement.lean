import NetTool.Node.History
import NetTool.Node.Orchestrator
/-!
# Node.Agreement — what the server answers to a prepare, the client accepts

The log answers a repeated prepare, so the agreement rests on an invariant of the log (`Recorded`): what a record
answers has the ports and the tag the client asks for, and the session behind it still has its authorization.  With it
every answer of `handle_prepare` to a planned request is accepted, except the one to a raw request: its session is kept
with the DPDK sessions, which the lookup of the tag leaves out (`prepare_agrees_iff`).
-/
namespace NetTool
namespace Node

open Prog Speed Resource SpeedTestLifecycle

variable {c c' : SessionCoordinator} {sid : SessionId} {orphans : Prop} {ext : Externals} {call : Call}

/-! ## The system's side -/

/-- The system gives a port to every socket it binds. -/
def Os.Allocates (os : Os) : Prop := ∀ address, os.localAddr = .ok address → address.port ≠ 0

def Call.Allocates : Call → Prop
  | .request _ os _ => os.Allocates
  | _ => True

theorem bindSocket_port {address : SocketAddr} {os : Os} {bound : Bound} (hos : os.Allocates)
    (h : bindSocket address os = .ok bound) : bound.localAddress.port ≠ 0 := by
  unfold bindSocket at h
  cases hbind : os.bind address with
  | error error => rw [hbind] at h; cases h
  | ok handle =>
    cases haddr : os.localAddr with
    | error error => rw [hbind, haddr] at h; cases h
    | ok localAddress =>
      rw [hbind, haddr, Except.ok.injEq] at h
      rw [← h]
      exact hos localAddress haddr

theorem trimIsEmpty_hexString {n : Nat} (bytes : Bytes (n + 1)) : trimIsEmpty (hexString bytes.1) = false := by
  obtain ⟨_ | ⟨b, rest⟩, hlength⟩ := bytes
  · cases hlength
  · have hb := b.toNat_lt
    have hdigit : isWhitespace (hexDigit (b.toNat / 16)) = false := (hexDigit_plain (by omega)).2.1
    simp [trimIsEmpty, hexString, hexByte, hdigit]

theorem randomTag_visible {os : Os} {tag : String} (h : randomTag os = .ok tag) : trimIsEmpty tag = false := by
  unfold randomTag at h
  cases hr : os.random with
  | error error => rw [hr] at h; cases h
  | ok bytes =>
    rw [hr, Except.ok.injEq] at h
    rw [← h]
    exact trimIsEmpty_hexString bytes

/-! ## Sessions keep their authorization -/

/-- Every session stays in its map, with its authorization. -/
def Retains (c c' : SessionCoordinator) : Prop :=
  ∀ sid s, c.session sid = some s → ∃ s', c'.session sid = some s' ∧ s.SameMap s' ∧ s'.authorization = s.authorization

theorem step_retains (hg : Good True c) (ext : Externals) (call : Call) : Retains c (step ext c call) := by
  intro sid s hs
  obtain ⟨s', hs', -⟩ := (step_acts hg ext call (fun _ => trivial)).1.waiting hg hs
  refine ⟨s', hs', ?_⟩
  have hsame : ∀ {s₁}, c.session sid = some s₁ → s₁ = s := fun h => Option.mem_unique h hs
  cases step_turns hg ext call sid s' hs' with
  | prepared hnew => rw [hs] at hnew; cases hnew
  | aged s₁ hs₁ _ hages =>
    rw [hsame hs₁] at hages
    exact ⟨hages.sameMap, hages.authorization⟩
  | begun s₁ now startAt _ hb _ hages =>
    rw [hsame hb.session] at hages
    exact ⟨hages.sameMap, hages.authorization⟩
  | canceled _ hkept => exact hkept s hs
  | concluded _ _ hkept => exact hkept s hs

theorem Retains.udp {x : UdpSession} (h : Retains c c') (hs : c.session sid = some (.udp x)) :
    ∃ y, c'.session sid = some (.udp y) ∧ y.authorization = x.authorization := by
  obtain ⟨s', hs', hmap, hauth⟩ := h sid _ hs
  cases s' with
  | udp y => exact ⟨y, hs', hauth⟩
  | tcp y => cases hmap
  | dpdk y => cases hmap

/-! ## What the log answers -/

/-- The session is a UDP session whose authorization has `P`. -/
def UdpAuthorized (c : SessionCoordinator) (sid : SessionId) (P : DataPlaneAuthorization → Prop) : Prop :=
  ∃ s, c.session sid = some (.udp s) ∧ P s.authorization

/-- What a record promises: its response has the ports and the tag of its role, a UDP session that sends has its source
port, and a DPDK request passed its checks. -/
def Answerable (c : SessionCoordinator) : OperationRecord → Prop
  | .prepareTcp _ response => response.dataPort ≠ 0 ∧ trimIsEmpty response.authorizationTag = false
  | .prepareTcpSender _ response => trimIsEmpty response.authorizationTag = false
  | .prepareTcpBidirectional _ response => response.dataPort ≠ 0 ∧ trimIsEmpty response.authorizationTag = false
  | .prepareUdp _ response => response.dataPort ≠ 0 ∧ trimIsEmpty response.authorizationTag = false
  | .prepareUdpSender stored response => trimIsEmpty response.authorizationTag = false ∧
      UdpAuthorized c stored.sessionId (fun a => ∃ port, a.sourcePort = some port ∧ port ≠ 0)
  | .prepareUdpBidirectional stored response => response.dataPort ≠ 0 ∧ trimIsEmpty response.authorizationTag = false ∧
      UdpAuthorized c stored.sessionId (fun a => a.destinationPort ≠ 0)
  | .prepareDpdkReceiver stored _ => validateDpdk stored = .ok ()
  | .start _ _ _ => True
  | .stop _ _ => True

theorem UdpAuthorized.retains {P : DataPlaneAuthorization → Prop} (h : UdpAuthorized c sid P) (hr : Retains c c') :
    UdpAuthorized c' sid P := by
  obtain ⟨s, hs, hP⟩ := h
  obtain ⟨s', hs', hauth⟩ := hr.udp hs
  exact ⟨s', hs', by rw [hauth]; exact hP⟩

theorem Answerable.retains {record : OperationRecord} (h : Answerable c record) (hr : Retains c c') :
    Answerable c' record := by
  cases record with
  | prepareUdpSender stored response => exact ⟨h.1, h.2.retains hr⟩
  | prepareUdpBidirectional stored response => exact ⟨h.1, h.2.1, h.2.2.retains hr⟩
  | _ => exact h

/-- Every record can be answered from. -/
def Recorded (c : SessionCoordinator) : Prop :=
  ∀ id record, c.operations.lookup id = some record → Answerable c record

def LogsAnswers (c c' : SessionCoordinator) : Prop :=
  ∀ id record, c'.operations.lookup id = some record → c.operations.lookup id = some record ∨ Answerable c' record

theorem LogsAnswers.of_same (h : c'.operations = c.operations) : LogsAnswers c c' := by
  intro id record hop
  rw [h] at hop
  exact .inl hop

theorem LogsAnswers.of_put {id : String} {record : OperationRecord} (h : c'.operations = c.operations.put id record)
    (hrecord : Answerable c' record) : LogsAnswers c c' := by
  intro id' record' hop
  rw [h] at hop
  rcases Table.lookup_put_cases hop with ⟨-, rfl⟩ | ⟨-, hold⟩
  · exact .inr hrecord
  · exact .inl hold

theorem Recorded.logs (h : Recorded c) (hr : Retains c c') (hlogs : LogsAnswers c c') : Recorded c' := by
  intro id record hop
  rcases hlogs id record hop with hold | hnew
  · exact (h id record hold).retains hr
  · exact hnew

/-! ## Prepares -/

/-- What a preparation keeps on a system that allocates ports can be answered from. -/
def Preparation.Answers {Endpoint Response : Type} (p : Preparation Endpoint Response) : Prop :=
  ∀ (os : Os) expiresAt endpoint tag (c : SessionCoordinator), os.Allocates → p.validate = .ok () →
    p.endpoint os = .ok endpoint → trimIsEmpty tag = false →
    c.session p.sessionId = some ((p.prepared expiresAt endpoint tag).session waiting) →
    Answerable c (p.prepared expiresAt endpoint tag).record

theorem Preparation.Known.answers {Endpoint Reply : Type} {p : Preparation Endpoint Reply} (h : p.Known) :
    p.Answers := by
  intro os expiresAt endpoint tag c hos hvalid hbound htag hs
  cases h with
  | tcpSender => exact htag
  | tcp
  | tcpBidirectional
  | udp => exact ⟨bindSocket_port hos hbound, htag⟩
  | udpSender => exact ⟨htag, _, hs, _, rfl, bindSocket_port hos hbound⟩
  | udpBidirectional => exact ⟨bindSocket_port hos hbound, htag, _, hs, bindSocket_port hos hbound⟩
  | dpdk => exact hvalid

theorem Replies.logsAnswers {r : Request} {os : Os} {result : Result Response}
    (h : Replies r os c result c') (hos : os.Allocates) (hg : Good orphans c) : LogsAnswers c c' := by
  cases h with
  | kept => exact .of_same rfl
  | @prepared _ _ p _ expiresAt _ endpoint tag _ _ _ _ hp h =>
    exact .of_put h.operations (hp.answers os expiresAt endpoint tag c' hos h.valid h.bound (randomTag_visible h.drawn)
      (h.writes hg).self)
  | stranded => exact .of_same rfl
  | started => exact .of_put rfl trivial
  | refused => exact .of_same rfl
  | stopped _ hops => exact .of_put hops trivial

/-! ## Every call -/

theorem step_logsAnswers (hg : Good orphans c) (ext : Externals) (call : Call) (hos : call.Allocates) :
    LogsAnswers c (step ext c call) := by
  cases step_act hg ext call with
  | answered r os now hcall h =>
    rw [hcall] at hos
    rw [h]
    exact (answered_replies hg r os now).logsAnswers hos hg
  | kept h => exact .of_same (by rw [h])
  | begun sid now _ h =>
    obtain ⟨s, startAt, s', -, -, -, -, h⟩ := h
    exact .of_same (by rw [h]; rfl)
  | spent sid h =>
    rcases h with h | ⟨s, s', -, -, -, -, -, h⟩
    · exact .of_same (by rw [h])
    · exact .of_same (by rw [h]; rfl)
  | ended sid final _ _ hops _ => exact .of_same hops

/-- **Every record of the log can be answered from.** -/
theorem recorded_runCalls (ext : Externals) (calls : List Call) (hos : ∀ call ∈ calls, call.Allocates) :
    Recorded (runCalls ext calls) := by
  induction calls using List.reverseRecOn with
  | nil =>
    intro id record hop
    simp [runCalls, SessionCoordinator.new] at hop
  | append_singleton calls call ih =>
    have hg := (lived_runCalls ext calls).good
    have hearlier := ih (fun call₁ h => hos call₁ (List.mem_append_left _ h))
    rw [runCalls_snoc]
    exact hearlier.logs (step_retains hg ext call) (step_logsAnswers hg ext call (hos call (by simp)))

/-! ## The answers to a prepare -/

section
variable {os : Os}

/-- A prepare that returns was answered from a record. -/
theorem prepare_answered {Endpoint Reply : Type} {p : Preparation Endpoint Reply} (hp : p.Known) (hos : os.Allocates)
    (hg : Good True c) (hrec : Recorded c) (now : Nat) :
    wp (prepare p os now) (fun a c' => Good True c' ∧ ∃ record, p.matching record = some a ∧ Answerable c' record)
      (fun _ _ => True) c := by
  refine wp_mono (wp_prepare p os now c) ?_ (fun _ _ _ => trivial)
  rintro a c' (⟨rfl, record, hop, hmatch⟩ | ⟨expiresAt, endpoint, tag, r, m, h⟩)
  · exact ⟨hg, record, hmatch, hrec _ record hop⟩
  · obtain ⟨heffect, hlogs⟩ : Effect True c c' ∧ Logs c c' := h.effect hp.sound
    refine ⟨hg.effect heffect hlogs, _, ?_, hp.answers os expiresAt endpoint tag c' hos h.valid h.bound
      (randomTag_visible h.drawn) (h.writes hg).self⟩
    rw [hp.sound.record, h.response]

end

theorem authorization_udp {s : UdpSession} (hg : Good orphans c) (hs : c.session sid = some (.udp s)) :
    c.authorization sid = some s.authorization := by
  have hudp := hg.apart.find_udp.1 hs
  unfold SessionCoordinator.authorization
  rw [hg.apart.udp sid s hudp, hudp]
  rfl

/-! ## The server -/

/-- What the client asks of an answer. -/
structure Acceptable (request : SpeedRunRequest) (response : PrepareTestResponse) : Prop where
  ready : response.ready = true
  tag : trimIsEmpty response.authorizationTag = false
  dataPort : response.dataPort < 2 ^ 16
  sourceDataPort : response.sourceDataPort < 2 ^ 16
  receives : request.protocol ≠ .raw → Direction.sends request.direction = true → response.dataPort ≠ 0
  sends : request.protocol = .udp → Direction.receives request.direction = true → response.sourceDataPort ≠ 0

/-- The raw requests a Node with DPDK can prepare a receiver for. -/
def PreparesRaw (request : SpeedRunRequest) : Prop :=
  request.protocol = .raw ∧ request.direction = .upload ∧ request.acceleratedPciAddress.isSome = true ∧
    request.durationMs ≤ 86400000 ∧ request.warmupMs + request.durationMs + request.cooldownMs + 999 < 2 ^ 64

theorem toNat_ne_zero {port : UInt16} (h : port ≠ 0) : port.toNat ≠ 0 := by
  intro hzero
  exact h (UInt16.toNat_inj.1 hzero)

theorem protocolName_injective {p q : SpeedProtocol} (h : protocolName p = protocolName q) : p = q := by
  cases p <;> cases q <;> first | rfl | (revert h; decide)

theorem directionName_injective {d e : Direction} (h : directionName d = directionName e) : d = e := by
  cases d <;> cases e <;> first | rfl | (revert h; decide)

theorem eq_download {d : Direction} (hup : directionName d ≠ "upload") (hboth : directionName d ≠ "bidirectional") :
    d = .download := by
  cases d with
  | upload => exact absurd rfl hup
  | bidirectional => exact absurd rfl hboth
  | download => rfl

theorem validateDpdk_ok {request : PrepareDpdkReceiverRequest} : validateDpdk request = .ok () ↔
    validDpdkBdf request.pciAddress = true ∧
      (request.durationMilliseconds ≠ 0 ∧ request.durationMilliseconds ≤ 86400000) ∧
      validDpdkMac request.remoteMacAddress = true := by
  unfold validateDpdk
  simp only [Check.error_bind, Check.guard_ok, Check.pure_ok, Bool.not_eq_true', Bool.not_eq_false, not_or, Nat.not_lt,
    and_true]

theorem authorizationTtl_ok {prepare : PrepareTest} : (∃ ttl, authorizationTtl prepare = .ok ttl) ↔
    prepare.warmupMs + prepare.durationMs + prepare.cooldownMs + 999 < 2 ^ 64 := by
  unfold authorizationTtl
  by_cases h : prepare.warmupMs + prepare.durationMs + prepare.cooldownMs + 999 < 2 ^ 64
  · have h₁ : checkedAdd prepare.warmupMs prepare.durationMs = some (prepare.warmupMs + prepare.durationMs) :=
      if_pos (by omega)
    have h₂ : checkedAdd (prepare.warmupMs + prepare.durationMs) prepare.cooldownMs =
        some (prepare.warmupMs + prepare.durationMs + prepare.cooldownMs) := if_pos (by omega)
    have h₃ : checkedAdd (prepare.warmupMs + prepare.durationMs + prepare.cooldownMs) 999 =
        some (prepare.warmupMs + prepare.durationMs + prepare.cooldownMs + 999) := if_pos h
    rw [h₁, Option.bind_some, h₂, Option.bind_some, h₃]
    exact iff_of_true ⟨_, rfl⟩ h
  · refine iff_of_false ?_ h
    rintro ⟨ttl, hok⟩
    split at hok
    · cases hok
    · rename_i total htotal
      unfold checkedAdd at htotal
      simp only [Option.bind_eq_some_iff, Option.ite_none_right_eq_some, Option.some.injEq] at htotal
      omega

theorem authorizationTtl_le {prepare : PrepareTest} {ttl : Nat} (h : authorizationTtl prepare = .ok ttl) :
    ttl ≤ 3600 := by
  unfold authorizationTtl at h
  split at h
  · cases h
  · rw [Except.ok.injEq] at h
    omega

theorem checkPrepare_ok {service : NodeControlService} {prepare : PrepareTest} : service.checkPrepare prepare = .ok () ↔
    (prepare.direction = "upload" ∨ prepare.direction = "download" ∨ prepare.direction = "bidirectional") ∧
    (prepare.backend = "dpdk" → service.dpdkAvailable = true) ∧
    (acceleratedBackend prepare.backend = true → validPciBdf prepare.acceleratedPciAddress = true) ∧
    (prepare.backend = "dpdk" → validPciBdf prepare.remoteAcceleratedPciAddress = true) ∧
    (prepare.backend = "dpdk" → prepare.testType = "raw" →
      NodeControlService.validUnicastMac prepare.remoteMacAddress = true) := by
  unfold NodeControlService.checkPrepare
  simp only [Check.error_bind, Check.guard_ok, Check.pure_ok, Bool.not_eq_true', Bool.not_eq_false, not_and,
    not_not, ne_eq, and_true]
  constructor
  · rintro ⟨hdir, hrest⟩
    refine ⟨?_, hrest⟩
    by_cases hup : prepare.direction = "upload"
    · exact .inl hup
    · by_cases hdown : prepare.direction = "download"
      · exact .inr (.inl hdown)
      · exact .inr (.inr (hdir hup hdown))
  · rintro ⟨hdir, hrest⟩
    refine ⟨fun hup hdown => ?_, hrest⟩
    rcases hdir with hd | hd | hd
    · exact absurd hd hup
    · exact absurd hd hdown
    · exact hd

section
variable (service : NodeControlService) {request : SpeedRunRequest} {operationId : String} {sid' : SessionId}
  {ports : LocalDataPlanePorts} {os : Os} (now ttl : Nat)

theorem handleTcpPrepare_answered (hos : os.Allocates) (hg : Good True c) (hrec : Recorded c) :
    wp (service.handleTcpPrepare (prepareMessage request operationId sid ports) sid' os now ttl)
      (fun a _ => trimIsEmpty a.authorizationTag = false ∧
        (Direction.sends request.direction = true → a.dataPort ≠ 0)) (fun _ _ => True) c := by
  refine wp_check (fun streams _ => ?_) (fun _ _ => trivial)
  rw [wp_ite]
  constructor
  · intro _
    apply wp_mono (prepare_answered (.tcp _) hos hg hrec now)
    · rintro a _ ⟨-, record, hmatch, hrecord⟩
      cases record <;> simp [tcpPreparation] at hmatch
      obtain ⟨-, rfl⟩ := hmatch
      exact ⟨hrecord.2, fun _ => hrecord.1⟩
    · exact fun _ _ h => h
  · intro hup
    refine wp_check (fun receivePort _ => ?_) (fun _ _ => trivial)
    rw [wp_ite]
    refine ⟨fun _ => trivial, fun _ => ?_⟩
    rw [wp_ite]
    constructor
    · intro _
      apply wp_mono (prepare_answered (.tcpBidirectional _) hos hg hrec now)
      · rintro a _ ⟨-, record, hmatch, hrecord⟩
        cases record <;> simp [tcpBidirectionalPreparation] at hmatch
        obtain ⟨-, rfl⟩ := hmatch
        exact ⟨hrecord.2, fun _ => hrecord.1⟩
      · exact fun _ _ h => h
    · intro hboth
      have hdown : request.direction = .download := eq_download hup hboth
      apply wp_mono (prepare_answered (.tcpSender _) hos hg hrec now)
      · rintro a _ ⟨-, record, hmatch, htag⟩
        cases record <;> simp [tcpSenderPreparation] at hmatch
        obtain ⟨-, rfl⟩ := hmatch
        exact ⟨htag, fun hsends => by rw [hdown] at hsends; cases hsends⟩
      · exact fun _ _ h => h

theorem handleUdpPrepare_answered (hos : os.Allocates) (hg : Good True c) (hrec : Recorded c) :
    wp (service.handleUdpPrepare (prepareMessage request operationId sid ports) sid' os now ttl)
      (fun response _ => Acceptable request response) (fun _ _ => True) c := by
  unfold NodeControlService.handleUdpPrepare
  rw [wp_ite]
  constructor
  · intro _
    refine wp_check (fun sourcePort _ => ?_) (fun _ _ => trivial)
    refine wp_check (fun receivePort _ => ?_) (fun _ _ => trivial)
    rw [wp_ite]
    refine ⟨fun _ => trivial, fun _ => ?_⟩
    refine wp_seq (prepare_answered (.udpBidirectional _) hos hg hrec now) ?_
    rintro a c' ⟨hg', record, hmatch, hrecord⟩
    cases record <;> simp [udpBidirectionalPreparation] at hmatch
    obtain ⟨rfl, rfl⟩ := hmatch
    obtain ⟨hport, htag, s, hs, hdestination⟩ := hrecord
    have hauth : c'.authorization sid' = some s.authorization := authorization_udp hg' hs
    rw [wp_bind, wp_get, hauth]
    exact ⟨rfl, htag, UInt16.toNat_lt _, s.authorization.destinationPort.toNat_lt, fun _ _ => toNat_ne_zero hport,
      fun _ _ => toNat_ne_zero hdestination⟩
  intro hboth
  rw [wp_ite]
  constructor
  · intro hup
    have hdown : request.direction = .download := eq_download hup hboth
    refine wp_check (fun receivePort _ => ?_) (fun _ _ => trivial)
    rw [wp_ite]
    refine ⟨fun _ => trivial, fun _ => ?_⟩
    refine wp_seq (prepare_answered (.udpSender _) hos hg hrec now) ?_
    rintro a c' ⟨hg', record, hmatch, hrecord⟩
    cases record <;> simp [udpSenderPreparation] at hmatch
    obtain ⟨rfl, rfl⟩ := hmatch
    obtain ⟨htag, s, hs, port, hsource, hport⟩ := hrecord
    have hauth : c'.authorization sid' = some s.authorization := authorization_udp hg' hs
    rw [wp_bind, wp_get, hauth]
    dsimp only [Option.bind_some]
    rw [hsource]
    exact ⟨rfl, htag, Nat.two_pow_pos 16, port.toNat_lt, fun _ hsends => (by rw [hdown] at hsends; cases hsends),
      fun _ _ => toNat_ne_zero hport⟩
  · intro hup
    have hup : request.direction = .upload := directionName_injective (not_not.1 hup)
    refine wp_check (fun sourcePort _ => ?_) (fun _ _ => trivial)
    refine wp_seq (prepare_answered (.udp _) hos hg hrec now) ?_
    rintro a c' ⟨-, record, hmatch, hrecord⟩
    cases record <;> simp [udpPreparation] at hmatch
    obtain ⟨-, rfl⟩ := hmatch
    obtain ⟨hport, htag⟩ := hrecord
    exact ⟨rfl, htag, UInt16.toNat_lt _, Nat.two_pow_pos 16, fun _ _ => toNat_ne_zero hport,
      fun _ hreceives => by rw [hup] at hreceives; cases hreceives⟩

/-- A raw request the server prepares is one it can prepare a receiver for. -/
theorem handleDpdkPrepare_raw (hrec : Recorded c) (hraw : request.protocol = .raw)
    (hpci : validPciBdf (request.acceleratedPciAddress.getD "") = true)
    (httl : authorizationTtl (prepareMessage request operationId sid ports) = .ok ttl) :
    wp (service.handleDpdkPrepare (prepareMessage request operationId sid ports) sid' os now ttl)
      (fun _ _ => PreparesRaw request) (fun _ _ => True) c := by
  unfold NodeControlService.handleDpdkPrepare
  rw [wp_ite]
  refine ⟨fun _ => trivial, fun hup => ?_⟩
  refine wp_then (wp_prepareDpdkReceiver _ os now c) (fun a c' hanswer => ?_) (fun _ _ _ => trivial)
  have hvalid :
    validateDpdk (service.dpdkReceiverRequest (prepareMessage request operationId sid ports) sid' ttl) = .ok () := by
    rcases hanswer with ⟨rfl, record, hop, hmatch⟩ | ⟨expiresAt, tag, r, m, h⟩
    · have hrecord := hrec _ record hop
      cases record <;> simp [matchingDpdk] at hmatch
      obtain ⟨rfl, -⟩ := hmatch
      exact hrecord
    · exact h.valid
  refine ⟨hraw, directionName_injective (not_not.1 hup), ?_, (validateDpdk_ok.1 hvalid).2.1.2,
    authorizationTtl_ok.1 ⟨ttl, httl⟩⟩
  cases haddress : request.acceleratedPciAddress with
  | some address => rfl
  | none => rw [haddress] at hpci; revert hpci; decide

/-- **Every answer to a planned request is one the client accepts, unless it is the answer to a raw request.** -/
theorem handlePrepare_answered (hos : os.Allocates) (hg : Good True c) (hrec : Recorded c) :
    wp (service.handlePrepare (prepareMessage request operationId sid ports) os now)
      (fun response _ => Acceptable request response ∨ PreparesRaw request) (fun _ _ => True) c := by
  refine wp_check (fun sid' _ => ?_) (fun _ _ => trivial)
  refine wp_check (fun _ hcheck => ?_) (fun _ _ => trivial)
  refine wp_check (fun ttl httl => ?_) (fun _ _ => trivial)
  rw [wp_ite]
  constructor
  · rintro ⟨hbackend, htype⟩
    have hraw : request.protocol = .raw := protocolName_injective htype
    have hpci := (checkPrepare_ok.1 hcheck).2.2.1 (by rw [hbackend]; rfl)
    exact wp_mono (handleDpdkPrepare_raw service _ ttl hrec hraw hpci httl) (fun _ _ h => .inr h) (fun _ _ h => h)
  intro _
  rw [wp_ite]
  constructor
  · rintro ⟨htype, -⟩
    have htcp : request.protocol = .tcp := protocolName_injective htype
    refine wp_seq (handleTcpPrepare_answered service _ ttl hos hg hrec) ?_
    rintro a c' ⟨htag, hport⟩
    exact .inl ⟨rfl, htag, a.dataPort.toNat_lt, Nat.two_pow_pos 16, fun _ hsends => toNat_ne_zero (hport hsends),
      fun hudp => by rw [htcp] at hudp; cases hudp⟩
  intro _
  rw [wp_ite]
  constructor
  · intro _
    exact wp_mono (handleUdpPrepare_answered service _ ttl hos hg hrec) (fun _ _ h => .inl h) (fun _ _ h => h)
  · exact fun _ => trivial

end

/-! ## The client -/

section
variable {request : SpeedRunRequest} {plan : SpeedSessionPlan} {response : PrepareTestResponse}

theorem ofNat_ne_zero {value : Nat} (h : value < 2 ^ 16) (hne : value ≠ 0) : UInt16.ofNat value ≠ 0 := by
  intro hzero
  apply hne
  have htoNat := congrArg UInt16.toNat hzero
  rw [UInt16.toNat_ofNat_of_lt' h] at htoNat
  exact htoNat

theorem acceptPrepared_ok (h : Acceptable request response) :
    ∃ prepared, acceptPrepared request sid plan response = .ok prepared := by
  have hreceives : ¬ (request.protocol ≠ .raw ∧ Direction.sends request.direction = true ∧
      UInt16.ofNat response.dataPort = 0) :=
    fun hc => ofNat_ne_zero h.dataPort (h.receives hc.1 hc.2.1) hc.2.2
  have hsends : ¬ (request.protocol = .udp ∧ Direction.receives request.direction = true ∧
      UInt16.ofNat response.sourceDataPort = 0) :=
    fun hc => ofNat_ne_zero h.sourceDataPort (h.sends hc.1 hc.2.1) hc.2.2
  refine ⟨⟨sid, plan, .ofNat response.dataPort, .ofNat response.sourceDataPort, response.authorizationTag⟩, ?_⟩
  unfold acceptPrepared answeredPort
  rw [if_neg (by simp [h.ready]), if_neg (by simp [h.tag]), if_pos h.dataPort, if_pos h.sourceDataPort]
  show (if _ then _ else _) = _
  rw [if_neg hreceives, if_neg hsends]
  rfl

end

/-! ## A raw request on a new server -/

theorem trimIsEmpty_append {s t : String} (h : trimIsEmpty s = false) : trimIsEmpty (s ++ t) = false := by
  unfold trimIsEmpty at h ⊢
  rw [String.toList_append, List.all_append, h]
  rfl

theorem prepareDpdkReceiver_new (sid : SessionId) (request : PrepareDpdkReceiverRequest) {os : Os} {bytes : Bytes 32}
    (hvalid : validateDpdk request = .ok ()) (httl : request.authorizationTtlSeconds ≤ 3600)
    (hrandom : os.random = .ok bytes) :
    wp (prepareDpdkReceiver request os 0) (fun _ c' => c'.authorization sid = none) (fun _ _ => False) .new := by
  have hexpires : checkedAdd 0 request.authorizationTtlSeconds = some (0 + request.authorizationTtlSeconds) :=
    if_pos (by omega)
  have hdrawn : randomTag os = .ok (hexString bytes.1) := by
    unfold randomTag
    rw [hrandom]
  apply wp_check_ok hvalid
  apply wp_ofOption_some hexpires
  simp only [wp_bind (onResources _)]
  apply wp_acquireResources
  · intro r m hacq
    apply wp_check_ok hdrawn
    exact rfl
  · have hid : trimIsEmpty (dpdkReservation request).reservationId = false := trimIsEmpty_append (by decide)
    have hsession : trimIsEmpty (dpdkReservation request).sessionId = false := trimIsEmpty_hexString request.sessionId
    refine fun e hnot => hnot ⟨by simp [SessionCoordinator.new, ResourceManager.new], ?_, rfl⟩
    unfold validateRequest
    rw [hid, hsession]
    rfl

theorem parseSessionId_eq {value : List UInt8} (h : parseSessionId value = .ok sid) : value = sid.1 := by
  unfold parseSessionId at h
  split at h
  · split at h
    · cases h
    · cases h
      rfl
  · cases h

theorem parseSessionId_ok (h : sid ≠ Bytes.replicate 16 0) : parseSessionId sid.1 = .ok sid := by
  have hall : sid.1.all (· == 0) = false := by
    rw [Bool.eq_false_iff]
    intro hzero
    apply h
    apply Subtype.ext
    exact List.eq_replicate_of_mem (fun b hb => by simpa using List.all_eq_true.1 hzero b hb) |>.trans
      (by rw [sid.2]; rfl)
  unfold parseSessionId
  rw [dif_pos sid.2, if_neg (by simp [hall])]
  rfl

section
variable {service : NodeControlService} {request : SpeedRunRequest} {operationId : String} {ports : LocalDataPlanePorts}
  {plan : SpeedSessionPlan}

theorem checkPrepare_raw
    (hplan : Planned request operationId sid ports (runtimeCapabilities service.dpdkAvailable) plan)
    (hraw : PreparesRaw request) : service.checkPrepare (prepareMessage request operationId sid ports) = .ok () := by
  obtain ⟨hprotocol, hdirection, hpci, -, -⟩ := hraw
  have hbackend := SpeedRunRequest.validateProtocol_raw hprotocol hplan.valid.protocol
  have hnics := hplan.valid.nics
  have haccelerated : acceleratedBackend request.backend = true := by rw [hbackend]; rfl
  unfold SpeedRunRequest.validateNics SpeedRunRequest.validateAccelerated at hnics
  rw [if_pos haccelerated] at hnics
  simp only [Check.error_bind, Check.guard_ok, Check.pure_ok, Bool.not_eq_true', not_and, Bool.not_eq_false,
    Bool.not_eq_true, and_true] at hnics
  obtain ⟨-, haddress, -, hremote, hmac, -⟩ := hnics
  have hdpdk : service.dpdkAvailable = true := by
    have hmem : capabilityRawPacketGenerator ∈ requiredCapabilities request := by
      rw [mem_requiredCapabilities]
      simp [insertedCapabilities, hprotocol, protocolCapability]
    have hprovides := provides_of_validate hplan.provided hmem
    cases hflag : service.dpdkAvailable with
    | true => rfl
    | false => rw [hflag] at hprovides; revert hprovides; decide
  have hget : ∀ {o : Option String} {P : String → Bool}, o.any P = true → P (o.getD "") = true := by
    intro o P h
    cases o with
    | none => cases h
    | some value => exact h
  refine checkPrepare_ok.2 ⟨.inl (congrArg directionName hdirection), fun _ => hdpdk, fun _ => ?_,
    fun _ => hget (hremote hbackend), fun _ _ => hget (hmac hbackend hprotocol)⟩
  obtain ⟨address, hsome⟩ := Option.isSome_iff_exists.1 hpci
  show validPciBdf (request.acceleratedPciAddress.getD "") = true
  rw [hsome] at haddress ⊢
  simpa using haddress

/-- **A new server answers a raw request it can prepare without a tag.** -/
theorem handlePrepare_raw {os : Os} {bytes : Bytes 32}
    (hplan : Planned request operationId sid ports (runtimeCapabilities service.dpdkAvailable) plan)
    (hraw : PreparesRaw request) (hrandom : os.random = .ok bytes) :
    wp (service.handlePrepare (prepareMessage request operationId sid ports) os 0)
      (fun response _ => response.ready = true ∧ response.authorizationTag = "") (fun _ _ => False) .new := by
  have hcheck := checkPrepare_raw hplan hraw
  obtain ⟨hprotocol, hdirection, -, hduration, hsum⟩ := hraw
  have hbackend := SpeedRunRequest.validateProtocol_raw hprotocol hplan.valid.protocol
  obtain ⟨ttl, httl⟩ : ∃ ttl, authorizationTtl (prepareMessage request operationId sid ports) = .ok ttl :=
    authorizationTtl_ok.2 hsum
  have hvalid : validateDpdk
      (service.dpdkReceiverRequest (prepareMessage request operationId sid ports) sid ttl) = .ok () :=
    validateDpdk_ok.2 ⟨(checkPrepare_ok.1 hcheck).2.2.2.1 hbackend, ⟨hplan.valid.duration, hduration⟩,
      (checkPrepare_ok.1 hcheck).2.2.2.2 hbackend (congrArg protocolName hprotocol)⟩
  apply wp_check_ok (parseSessionId_ok hplan.session)
  apply wp_check_ok hcheck
  apply wp_check_ok httl
  rw [if_pos ⟨hbackend, congrArg protocolName hprotocol⟩]
  have hupload : (prepareMessage request operationId sid ports).direction = "upload" :=
    congrArg directionName hdirection
  unfold NodeControlService.handleDpdkPrepare
  rw [if_neg (not_not.2 hupload)]
  refine wp_seq (prepareDpdkReceiver_new sid _ hvalid (authorizationTtl_le httl) hrandom) ?_
  intro a c' hnone
  rw [wp_bind, wp_get, hnone]
  exact ⟨rfl, rfl⟩

/-- Whatever calls came before, an answer that says ready is accepted by the client. -/
def PrepareAgrees (ext : Externals) (service : NodeControlService) (request : SpeedRunRequest) (sid : SessionId)
    (plan : SpeedSessionPlan) : Prop :=
  ∀ (calls : List Call) (os : Os) (now : Nat) (response : PrepareTestResponse) (c' : SessionCoordinator),
    (∀ call ∈ calls, call.Allocates) → os.Allocates →
    service.handlePrepare plan.prepare os now (runCalls ext calls) = (.ok response, c') → response.ready = true →
    ∃ prepared, acceptPrepared request sid plan response = .ok prepared

end

/-- **Client and server agree on a planned request exactly when it is not a raw request the server can prepare.** -/
theorem prepare_agrees_iff (ext : Externals) (service : NodeControlService) (request : SpeedRunRequest)
    (operationId : String) (sid : SessionId) (ports : LocalDataPlanePorts) (plan : SpeedSessionPlan)
    (hplan : planSpeedSession request operationId sid ports (runtimeCapabilities service.dpdkAvailable) = .ok plan) :
    PrepareAgrees ext service request sid plan ↔ ¬ PreparesRaw request := by
  have hplanned := planned_of_ok hplan
  have hmessage : plan.prepare = prepareMessage request operationId sid ports := by rw [hplanned.plan]
  constructor
  · intro hagrees hraw
    have hwp : wp (service.handlePrepare (prepareMessage request operationId sid ports) sampleOs 0) _ _ _ :=
      handlePrepare_raw hplanned hraw rfl
    rcases wp_cases hwp with ⟨response, c', hrun, hready, htag⟩ | ⟨_, _, _, hfalse⟩
    · have hos : sampleOs.Allocates := by
        rintro _ ⟨⟩
        decide
      rw [← hmessage] at hrun
      obtain ⟨prepared, hok⟩ := hagrees [] sampleOs 0 response c' (by simp) hos hrun hready
      unfold acceptPrepared at hok
      simp only [Check.error_bind, Check.guard_ok] at hok
      exact hok.2.1 (by rw [htag]; rfl)
    · exact hfalse
  · intro hnot calls os now response c' hcalls hos hrun hready
    rw [hmessage] at hrun
    have hanswered : wp (service.handlePrepare (prepareMessage request operationId sid ports) os now) _ _ _ :=
      handlePrepare_answered service now hos (lived_runCalls ext calls).good (recorded_runCalls ext calls hcalls)
    rcases wp_ok hanswered hrun with hacceptable | hraw
    · exact acceptPrepared_ok hacceptable
    · exact absurd hraw hnot

/-- A run of ten seconds; the fields that depend on the protocol are left open. -/
def sampleRequest : SpeedRunRequest where
  node := "node-b"
  protocol := .tcp
  backend := "socket"
  direction := .upload
  durationMs := 10000
  warmupMs := 1000
  cooldownMs := 1000
  streams := none
  frameSize := none
  targetRateBps := none
  autoTune := false
  latencyUnderLoad := false
  cpus := none
  numaNode := none
  acceleratedPciAddress := none
  acceleratedInterfaceName := none
  remoteAcceleratedPciAddress := none
  remoteMacAddress := none

def sampleRaw : SpeedRunRequest :=
  { sampleRequest with
    protocol := .raw
    backend := "dpdk"
    frameSize := some 64
    acceleratedPciAddress := some "0000:01:00.0"
    remoteAcceleratedPciAddress := some "0000:02:00.0"
    remoteMacAddress := some "02:00:00:00:00:02" }

def samplePlan (request : SpeedRunRequest) : SpeedSessionPlan :=
  ⟨requiredCapabilities request, prepareMessage request "run-1" (sampleId 7) .default⟩

theorem prepare_agrees_upload : PrepareAgrees sampleExternals sampleService sampleRequest (sampleId 7)
    (samplePlan sampleRequest) := by
  have hplan : planSpeedSession sampleRequest "run-1" (sampleId 7) .default
      (runtimeCapabilities sampleService.dpdkAvailable) = .ok (samplePlan sampleRequest) := by decide
  refine (prepare_agrees_iff _ _ _ _ _ _ _ hplan).2 ?_
  rintro ⟨hraw, -⟩
  cases hraw

/-- The server answers ready with an empty tag, and the client refuses the answer. -/
theorem raw_answer_is_refused :
    planSpeedSession sampleRaw "run-1" (sampleId 7) .default (runtimeCapabilities sampleService.dpdkAvailable) =
      .ok (samplePlan sampleRaw) ∧
    (sampleService.handlePrepare (samplePlan sampleRaw).prepare sampleOs 0 .new).1 = .ok ⟨true, 0, "", 0⟩ ∧
    acceptPrepared sampleRaw (sampleId 7) (samplePlan sampleRaw) ⟨true, 0, "", 0⟩ =
      .error (protocol "prepare response does not contain an authorization tag") := by
  refine ⟨by decide, by decide, by decide⟩

end Node
end NetTool
