import Mathlib.Data.List.Induction
import NetTool.Lib.Serial
/-!
# Packet.Tcp — classifying the segments of a flow (`crates/packet/src/tcp.rs`)

The analyzer keeps one number per direction, the sequence number it expects next, and compares every segment with it.
What it has really seen is the set of numbers the earlier segments of the direction occupy (`Observed`).  All numbers
from the first segment's to the expected one were seen (`reached_observed`); what lies before the first or after the
expected number the analyzer does not remember, and that is where its answers part from the history.
-/
namespace NetTool
namespace Packet

open Serial List

/-! ## The analyzer -/

inductive FlowDirection
  | forward | reverse
  deriving DecidableEq

inductive AnalysisConfidence
  | high | medium | low | invalid

structure ConfidenceAssessment where
  level : AnalysisConfidence
  reason : String

structure TcpObservation where
  direction : FlowDirection
  sequence : UInt32
  acknowledgement : UInt32
  window : UInt16
  flags : UInt16
  payloadLength : UInt32
  deriving DecidableEq

inductive TcpClassification
  | inOrder | observedRetransmission | suspectedRetransmission | outOfOrder | duplicateAck
  deriving DecidableEq

structure TcpFlowState where
  nextSeq : Option UInt32 := none
  lastAck : Option UInt32 := none
  window : UInt16 := 0
  synSeen : Bool := false
  finSeen : Bool := false
  rstSeen : Bool := false
  retransmissionCount : UInt64 := 0
  outOfOrderCount : UInt64 := 0

structure TcpAnalysis where
  classification : TcpClassification
  confidence : ConfidenceAssessment

structure TcpFlowAnalyzer where
  forward : TcpFlowState := {}
  reverse : TcpFlowState := {}

def fin : UInt16 := 0x001
def syn : UInt16 := 0x002
def rst : UInt16 := 0x004
def ack : UInt16 := 0x010

def seqBefore (left right : UInt32) : Bool := before left right
def seqAfter (left right : UInt32) : Bool := seqBefore right left

def saturatingAdd32 (a b : UInt32) : UInt32 := .ofNat (min (a.toNat + b.toNat) (2 ^ 32 - 1))

/-- A counter of the state, a `u64`. -/
def countUp (count : UInt64) : UInt64 := .ofNat (min (count.toNat + 1) (2 ^ 64 - 1))

namespace TcpObservation

variable (packet : TcpObservation)

def has (flag : UInt16) : Bool := packet.flags &&& flag != 0

/-- The sequence numbers the segment takes: its payload, and one each for SYN and FIN. -/
def consumes : UInt32 :=
  saturatingAdd32 (saturatingAdd32 packet.payloadLength (if packet.has syn then 1 else 0))
    (if packet.has fin then 1 else 0)

/-- `end`, which wraps. -/
def stop : UInt32 := packet.sequence + packet.consumes

end TcpObservation

def TcpClassification.isRetransmission : TcpClassification → Bool
  | observedRetransmission | suspectedRetransmission => true
  | _ => false

namespace TcpFlowState

variable (state : TcpFlowState) (packet : TcpObservation) (captureDrops : UInt64)

def duplicateAck : Bool :=
  packet.has ack && packet.consumes == 0 && state.lastAck == some packet.acknowledgement

def classify : TcpClassification × TcpFlowState :=
  if state.duplicateAck packet then (.duplicateAck, state)
  else match state.nextSeq with
    | some expected =>
      if seqBefore packet.sequence expected then
        (if captureDrops = 0 then .observedRetransmission else .suspectedRetransmission,
          { state with retransmissionCount := countUp state.retransmissionCount })
      else if seqAfter packet.sequence expected then
        (.outOfOrder, { state with outOfOrderCount := countUp state.outOfOrderCount })
      else (.inOrder, { state with nextSeq := some packet.stop })
    | none => (.inOrder, { state with nextSeq := some packet.stop })

/-- A retransmission that reaches past the expected number moves it. -/
def catchUp (classification : TcpClassification) : TcpFlowState :=
  if classification.isRetransmission && state.nextSeq.any (seqAfter packet.stop ·) then
    { state with nextSeq := some packet.stop }
  else state

/-- What the state notes of every segment. -/
def note : TcpFlowState :=
  { state with
    lastAck := if packet.has ack then some packet.acknowledgement else state.lastAck
    window := packet.window
    synSeen := state.synSeen || packet.has syn
    finSeen := state.finSeen || packet.has fin
    rstSeen := state.rstSeen || packet.has rst }

def observe : TcpClassification × TcpFlowState :=
  let (classification, state) := state.classify packet captureDrops
  (classification, (state.catchUp packet classification).note packet)

end TcpFlowState

def confidence (captureDrops : UInt64) : ConfidenceAssessment :=
  if captureDrops = 0 then ⟨.high, "capture_complete"⟩ else ⟨.low, "capture_drop_observed"⟩

namespace TcpFlowAnalyzer

variable (analyzer : TcpFlowAnalyzer)

def side : FlowDirection → TcpFlowState
  | .forward => analyzer.forward
  | .reverse => analyzer.reverse

def setSide (state : TcpFlowState) : FlowDirection → TcpFlowAnalyzer
  | .forward => { analyzer with forward := state }
  | .reverse => { analyzer with reverse := state }

def observe (packet : TcpObservation) (captureDrops : UInt64) : TcpAnalysis × TcpFlowAnalyzer :=
  let (classification, state) := (analyzer.side packet.direction).observe packet captureDrops
  (⟨classification, confidence captureDrops⟩, analyzer.setSide state packet.direction)

end TcpFlowAnalyzer

/-- A segment with the drops the capture had counted when it came. -/
abbrev Capture := TcpObservation × UInt64

def observeAll (run : List Capture) : TcpFlowAnalyzer :=
  run.foldl (fun analyzer capture => (analyzer.observe capture.1 capture.2).2) {}

/-! ## The history of a direction -/

def flow (direction : FlowDirection) (run : List Capture) : List Capture :=
  run.filter (fun capture => capture.1.direction = direction)

def Observed (seen : List Capture) (x : UInt32) : Prop :=
  ∃ capture ∈ seen, Span capture.1.sequence capture.1.consumes.toNat x

def firstSequence (seen : List Capture) : Option UInt32 := seen.head?.map (fun capture => capture.1.sequence)

def Covered (seen : List Capture) (packet : TcpObservation) : Prop :=
  ∀ x, Span packet.sequence packet.consumes.toNat x → Observed seen x

/-- The segment lies in the half of the circle that starts at the base. -/
def Within (base : UInt32) (packet : TcpObservation) : Prop :=
  offset base packet.sequence < 2 ^ 31 ∧ offset base packet.sequence + packet.consumes.toNat ≤ 2 ^ 31

instance (base : UInt32) (packet : TcpObservation) : Decidable (Within base packet) :=
  inferInstanceAs (Decidable (_ ∧ _))

instance (seen : List Capture) (x : UInt32) : Decidable (Observed seen x) :=
  inferInstanceAs (Decidable (∃ capture ∈ seen, _))

variable {seen : List Capture} {x : UInt32}

theorem Observed.append (capture : Capture) (h : Observed seen x) : Observed (seen ++ [capture]) x := by
  obtain ⟨other, hmem, hspan⟩ := h
  exact ⟨other, mem_append_left _ hmem, hspan⟩

theorem observed_last {capture : Capture} (h : Span capture.1.sequence capture.1.consumes.toNat x) :
    Observed (seen ++ [capture]) x :=
  ⟨capture, mem_append_right _ (mem_singleton_self _), h⟩

theorem firstSequence_append {first : UInt32} (capture : Capture) (h : firstSequence seen = some first) :
    firstSequence (seen ++ [capture]) = some first := by
  cases seen with
  | nil => cases h
  | cons head rest => exact h

/-! ## What one segment does -/

def observeFlow (seen : List Capture) : TcpFlowState :=
  seen.foldl (fun state capture => (state.observe capture.1 capture.2).2) {}

theorem observeFlow_append (seen : List Capture) (capture : Capture) :
    observeFlow (seen ++ [capture]) = ((observeFlow seen).observe capture.1 capture.2).2 := by
  unfold observeFlow
  rw [foldl_append]
  rfl

/-- **The directions do not touch each other.** -/
theorem side_observeAll (direction : FlowDirection) (run : List Capture) :
    (observeAll run).side direction = observeFlow (flow direction run) := by
  induction run using List.reverseRecOn with
  | nil => cases direction <;> rfl
  | append_singleton run capture ih =>
    have hall : observeAll (run ++ [capture]) = ((observeAll run).observe capture.1 capture.2).2 := by
      unfold observeAll
      rw [foldl_append]
      rfl
    have hflow : flow direction (run ++ [capture]) = flow direction run ++ flow direction [capture] := filter_append ..
    rw [hall, hflow]
    by_cases h : capture.1.direction = direction
    · have hsingle : flow direction [capture] = [capture] := by
        unfold flow
        rw [filter_cons, if_pos (decide_eq_true h)]
        rfl
      rw [hsingle, observeFlow_append, ← ih, ← h]
      unfold TcpFlowAnalyzer.observe
      cases capture.1.direction <;> rfl
    · have hsingle : flow direction [capture] = [] := by
        unfold flow
        rw [filter_cons, if_neg (by rwa [decide_eq_true_eq])]
        rfl
      rw [hsingle, append_nil, ← ih]
      unfold TcpFlowAnalyzer.observe
      revert h
      cases capture.1.direction <;> cases direction <;> intro h <;> first | rfl | exact absurd rfl h

namespace TcpFlowState

variable {state : TcpFlowState} {packet : TcpObservation} {captureDrops : UInt64} {expected : UInt32}

@[simp] theorem note_nextSeq : (state.note packet).nextSeq = state.nextSeq := rfl

/-- What a segment is, and what it does: a duplicate ACK; one at the expected number, or the first; one before it, which
may carry it on; or one after it. -/
theorem observe_cases (state : TcpFlowState) (packet : TcpObservation) (captureDrops : UInt64) :
    (state.duplicateAck packet = true ∧ state.observe packet captureDrops = (.duplicateAck, state.note packet)) ∨
    state.duplicateAck packet = false ∧
      ((∀ expected, state.nextSeq = some expected → packet.sequence = expected) ∧
        state.observe packet captureDrops = (.inOrder, { state with nextSeq := some packet.stop }.note packet) ∨
      ∃ expected, state.nextSeq = some expected ∧ packet.sequence ≠ expected ∧
        (seqBefore packet.sequence expected = true ∧
          (state.observe packet captureDrops).1 =
            (if captureDrops = 0 then .observedRetransmission else .suspectedRetransmission) ∧
          (state.observe packet captureDrops).2.nextSeq =
            some (if seqAfter packet.stop expected then packet.stop else expected) ∨
        seqBefore packet.sequence expected = false ∧ state.observe packet captureDrops =
          (.outOfOrder, { state with outOfOrderCount := countUp state.outOfOrderCount }.note packet))) := by
  have hplain : ∀ {classification} (s : TcpFlowState), classification.isRetransmission = false →
      (classification, (s.catchUp packet classification).note packet) = (classification, s.note packet) :=
    fun s h => by rw [catchUp, h, Bool.false_and, if_neg Bool.false_ne_true]
  cases hduplicate : state.duplicateAck packet with
  | true =>
    unfold observe classify
    rw [if_pos hduplicate]
    exact .inl ⟨rfl, hplain state rfl⟩
  | false =>
    refine .inr ⟨rfl, ?_⟩
    unfold observe classify
    rw [if_neg (Bool.eq_false_iff.1 hduplicate)]
    cases hnext : state.nextSeq with
    | none => exact .inl ⟨fun _ h => (by cases h), hplain _ rfl⟩
    | some expected =>
      have hequal : packet.sequence = expected ↔ seqBefore packet.sequence expected = false ∧
        seqAfter packet.sequence expected = false :=
        eq_iff_not_before
      cases hbefore : seqBefore packet.sequence expected with
      | true =>
        have hretransmission : (if captureDrops = 0 then TcpClassification.observedRetransmission
            else .suspectedRetransmission).isRetransmission = true := by
          split <;> rfl
        simp only [hbefore, if_true, note_nextSeq]
        refine .inr ⟨expected, rfl, by rw [ne_eq, hequal, hbefore]; simp, .inl ⟨hbefore, trivial, ?_⟩⟩
        unfold catchUp
        simp only [hretransmission, Bool.true_and, Option.any_some]
        split <;> rfl
      | false =>
        cases hafter : seqAfter packet.sequence expected with
        | true =>
          simp only [hbefore, hafter, Bool.false_eq_true, if_false, if_true]
          exact .inr ⟨expected, rfl, by rw [ne_eq, hequal, hafter]; simp, .inr ⟨hbefore, hplain _ rfl⟩⟩
        | false =>
          simp only [hbefore, hafter, Bool.false_eq_true, if_false]
          exact .inl ⟨fun _ h => Option.some.inj h ▸ hequal.2 ⟨hbefore, hafter⟩, hplain _ rfl⟩

/-- An observed retransmission starts before the expected number, in a capture without drops. -/
theorem observed_retransmission_iff :
    (state.observe packet captureDrops).1 = .observedRetransmission ↔
      captureDrops = 0 ∧ state.duplicateAck packet = false ∧
        ∃ expected, state.nextSeq = some expected ∧ seqBefore packet.sequence expected = true := by
  have hself : ∀ x : UInt32, seqBefore x x = false := fun x => (eq_iff_not_before.1 rfl).1
  rcases observe_cases state packet captureDrops with
    ⟨hduplicate, hobserve⟩ | ⟨hduplicate, ⟨hequal, hobserve⟩ | ⟨expected, hnext, -, hcase⟩⟩
  · simp [hobserve, hduplicate]
  · rw [hobserve]
    refine ⟨fun h => (by cases h), ?_⟩
    rintro ⟨-, -, expected, hnext, hbefore⟩
    rw [hequal expected hnext, hself] at hbefore
    cases hbefore
  · rcases hcase with ⟨hbefore, hclass, -⟩ | ⟨hbefore, hobserve⟩
    · rw [hclass]
      by_cases hdrops : captureDrops = 0 <;> simp [hdrops, hduplicate, hnext, hbefore]
    · simp [hobserve, hnext, hbefore]

/-- **A later segment is in order when it is no duplicate ACK and starts at the expected number**, and then only the
expected number moves. -/
theorem in_order_iff (hnext : state.nextSeq = some expected) :
    (state.observe packet captureDrops).1 = .inOrder ∧
        (state.observe packet captureDrops).2.outOfOrderCount = state.outOfOrderCount ↔
      state.duplicateAck packet = false ∧ packet.sequence = expected := by
  rcases observe_cases state packet captureDrops with
    ⟨hduplicate, hobserve⟩ | ⟨hduplicate, ⟨hequal, hobserve⟩ | ⟨e, he, hne, hcase⟩⟩
  · simp [hobserve, hduplicate]
  · rw [hobserve]
    exact ⟨fun _ => ⟨hduplicate, hequal expected hnext⟩, fun _ => ⟨rfl, rfl⟩⟩
  · obtain rfl : e = expected := Option.mem_unique he hnext
    refine ⟨fun h => ?_, fun h => absurd h.2 hne⟩
    rcases hcase with ⟨-, hclass, -⟩ | ⟨-, hobserve⟩
    · rw [hclass] at h
      split at h <;> cases h.1
    · rw [hobserve] at h
      cases h.1

end TcpFlowState

/-! ## What the expected number stands for -/

/-- **Only a segment that starts at or before the expected number carries it on, to its end**; below half the circle
such a segment always does. -/
theorem observe_within {base expected : UInt32} {state : TcpFlowState} {capture : Capture}
    (hwithin : Within base capture.1) (hnext : state.nextSeq = some expected) (hhalf : offset base expected ≤ 2 ^ 31) :
    ∃ new, (state.observe capture.1 capture.2).2.nextSeq = some new ∧
      (new = expected ∨ new = capture.1.stop ∧ offset base capture.1.sequence ≤ offset base expected) ∧
      (offset base expected < 2 ^ 31 → offset base expected ≤ offset base new ∧
        (offset base capture.1.sequence ≤ offset base expected → offset base capture.1.stop ≤ offset base new)) := by
  obtain ⟨hstart, hroom⟩ := hwithin
  have hstop : offset base capture.1.stop = offset base capture.1.sequence + capture.1.consumes.toNat :=
    offset_add (by omega)
  rcases TcpFlowState.observe_cases state capture.1 capture.2 with
    ⟨hduplicate, hobserve⟩ | ⟨-, ⟨hequal, hobserve⟩ | ⟨e, he, hne, hcase⟩⟩
  · -- a duplicate ACK takes no numbers
    have hempty : capture.1.consumes = 0 := by
      unfold TcpFlowState.duplicateAck at hduplicate
      simp only [Bool.and_eq_true, beq_iff_eq] at hduplicate
      exact hduplicate.1.2
    rw [hempty] at hstop
    have hstop : offset base capture.1.stop = offset base capture.1.sequence := hstop
    exact ⟨expected, by rw [hobserve]; exact hnext, .inl rfl, fun _ => ⟨Nat.le_refl _, fun hle => by omega⟩⟩
  · have hequal := hequal expected hnext
    refine ⟨capture.1.stop, by rw [hobserve]; rfl, .inr ⟨rfl, by rw [hequal]⟩, fun _ => ⟨?_, fun _ => Nat.le_refl _⟩⟩
    rw [← hequal]
    omega
  · obtain rfl : e = expected := Option.mem_unique he hnext
    rcases hcase with ⟨hbefore, -, hmoved⟩ | ⟨hbefore, hobserve⟩
    · have hle := ((before_iff hstart hhalf).1 hbefore).le
      refine ⟨_, hmoved, ?_⟩
      cases hcatch : seqAfter capture.1.stop e with
      | true =>
        refine ⟨.inr ⟨rfl, hle⟩, fun hlt => ⟨?_, fun _ => Nat.le_refl _⟩⟩
        exact ((before_iff hlt (by omega)).1 hcatch).le
      | false =>
        refine ⟨.inl rfl, fun hlt => ⟨Nat.le_refl _, fun _ => ?_⟩⟩
        exact Nat.not_lt.1 (mt (before_iff hlt (by omega)).2 (Bool.eq_false_iff.1 hcatch))
    · have hnot := mt (before_iff hstart hhalf).2 (Bool.eq_false_iff.1 hbefore)
      have hdiffers : offset base capture.1.sequence ≠ offset base e := fun h => hne (offset_inj h)
      exact ⟨e, by rw [hobserve]; exact hnext, .inl rfl, fun _ => ⟨Nat.le_refl _, fun hle => by omega⟩⟩

theorem observeFlow_singleton (capture : Capture) : (observeFlow [capture]).nextSeq = some capture.1.stop := by
  rcases TcpFlowState.observe_cases {} capture.1 capture.2 with ⟨hduplicate, -⟩ | ⟨-, ⟨-, hobserve⟩ | ⟨_, ⟨⟩, -⟩⟩
  · rw [show ({} : TcpFlowState).duplicateAck capture.1 = false from Bool.and_false _] at hduplicate
    cases hduplicate
  · exact congrArg (fun r : TcpClassification × TcpFlowState => r.2.nextSeq) hobserve

/-- **Every number from the first segment's to the expected one was observed.** -/
theorem reached_observed {base : UInt32} (hwithin : ∀ capture ∈ seen, Within base capture.1) (hne : seen ≠ []) :
    ∃ first expected, firstSequence seen = some first ∧ (observeFlow seen).nextSeq = some expected ∧
      offset base first < 2 ^ 31 ∧ offset base expected ≤ 2 ^ 31 ∧
      ∀ x, offset base first ≤ offset base x → offset base x < offset base expected → Observed seen x := by
  induction seen using List.reverseRecOn with
  | nil => exact absurd rfl hne
  | append_singleton seen capture ih =>
    have hcapture := hwithin capture (mem_append_right _ (mem_singleton_self _))
    obtain ⟨hstart, hroom⟩ := id hcapture
    have hstop : offset base capture.1.stop = offset base capture.1.sequence + capture.1.consumes.toNat :=
      offset_add (by omega)
    have hspan : ∀ x, Span capture.1.sequence capture.1.consumes.toNat x ↔
      offset base capture.1.sequence ≤ offset base x ∧
        offset base x < offset base capture.1.stop := fun x => hstop ▸ span_iff (by omega) x
    by_cases hnil : seen = []
    · subst hnil
      refine ⟨capture.1.sequence, capture.1.stop, rfl, observeFlow_singleton capture, hstart, by omega,
        fun x hfrom hto => ?_⟩
      exact observed_last ((hspan x).2 ⟨hfrom, hto⟩)
    · obtain ⟨first, expected, hfirst, hnext, hfirstHalf, hhalf, hobserved⟩ :=
        ih (fun c hc => hwithin c (mem_append_left _ hc)) hnil
      obtain ⟨new, hnew, hmoved⟩ := observe_within hcapture hnext hhalf
      rw [observeFlow_append]
      rcases hmoved.1 with rfl | ⟨rfl, hle⟩
      · exact ⟨first, new, firstSequence_append _ hfirst, hnew, hfirstHalf, hhalf,
          fun x hfrom hto => (hobserved x hfrom hto).append capture⟩
      · refine ⟨first, _, firstSequence_append _ hfirst, hnew, hfirstHalf, by omega, fun x hfrom hto => ?_⟩
        by_cases hx : offset base x < offset base expected
        · exact (hobserved x hfrom hx).append capture
        · exact observed_last ((hspan x).2 ⟨by omega, hto⟩)

/-! ## Retransmissions -/

/-- What a segment may do to be a retransmission of observed data: it carries sequence numbers, and those before the
first segment's or from the expected one on were observed. -/
def Repeats (seen : List Capture) (first expected : UInt32) (packet : TcpObservation) : Prop :=
  packet.consumes ≠ 0 ∧ ∀ x, Span packet.sequence packet.consumes.toNat x →
    seqBefore x first = true ∨ seqBefore x expected = false → Observed seen x

/-- The segments whose answer agrees with the history. -/
def Answered (seen : List Capture) (packet : TcpObservation) (captureDrops : UInt64) : Prop :=
  captureDrops = 0 → (observeFlow seen).duplicateAck packet = false →
    ∀ first expected, firstSequence seen = some first → (observeFlow seen).nextSeq = some expected →
      seqBefore packet.sequence expected = true → Repeats seen first expected packet

/-- Within half the circle, what `Repeats` asks is that the whole segment was observed. -/
theorem covered_iff_repeats {base first expected : UInt32} {packet : TcpObservation} (hwithin : Within base packet)
    (hfirst : offset base first < 2 ^ 31) (hexpected : offset base expected ≤ 2 ^ 31)
    (hreached : ∀ x, offset base first ≤ offset base x → offset base x < offset base expected → Observed seen x) :
    packet.consumes ≠ 0 ∧ Covered seen packet ↔ Repeats seen first expected packet := by
  obtain ⟨hstart, hroom⟩ := hwithin
  have hroom : offset base packet.sequence + packet.consumes.toNat ≤ 2 ^ 32 := by omega
  constructor
  · rintro ⟨hsome, hcovered⟩
    exact ⟨hsome, fun x hx _ => hcovered x hx⟩
  · rintro ⟨hsome, hedges⟩
    refine ⟨hsome, fun x hx => ?_⟩
    have hhalf : offset base x < 2 ^ 31 := by
      have hin := (span_iff hroom x).1 hx
      omega
    by_cases hlow : seqBefore x first = true
    · exact hedges x hx (.inl hlow)
    · cases hhigh : seqBefore x expected with
      | false => exact hedges x hx (.inr hhigh)
      | true =>
        refine hreached x ?_ ((before_iff hhalf hexpected).1 hhigh)
        exact Nat.not_lt.1 (fun hlt => hlow ((before_iff hhalf (Nat.le_of_lt hfirst)).2 hlt))

theorem observe_classification (earlier : List Capture) (packet : TcpObservation) (captureDrops : UInt64) :
    ((observeAll earlier).observe packet captureDrops).1.classification =
      ((observeFlow (flow packet.direction earlier)).observe packet captureDrops).1 := by
  rw [← side_observeAll]
  rfl

theorem observe_side (earlier : List Capture) (packet : TcpObservation) (captureDrops : UInt64) :
    ((observeAll earlier).observe packet captureDrops).2.side packet.direction =
      ((observeFlow (flow packet.direction earlier)).observe packet captureDrops).2 := by
  rw [← side_observeAll]
  unfold TcpFlowAnalyzer.observe
  cases packet.direction <;> rfl

theorem forall_flow {P : FlowDirection → TcpObservation → Prop} {run : List Capture} (direction : FlowDirection)
    (h : ∀ capture ∈ run, P capture.1.direction capture.1) : ∀ capture ∈ flow direction run, P direction capture.1 := by
  intro capture hcapture
  obtain ⟨hmem, hdirection⟩ := mem_filter.1 hcapture
  rw [← of_decide_eq_true hdirection]
  exact h capture hmem

/-- **A segment called an observed retransmission repeats observed data exactly when it is `Answered`.** -/
theorem retransmission_covered_iff (base : FlowDirection → UInt32) (earlier : List Capture) (packet : TcpObservation)
    (captureDrops : UInt64) (hearlier : ∀ capture ∈ earlier, Within (base capture.1.direction) capture.1)
    (hpacket : Within (base packet.direction) packet) :
    (((observeAll earlier).observe packet captureDrops).1.classification = .observedRetransmission →
        packet.consumes ≠ 0 ∧ Covered (flow packet.direction earlier) packet) ↔
      Answered (flow packet.direction earlier) packet captureDrops := by
  rw [observe_classification, TcpFlowState.observed_retransmission_iff]
  have hwithin := forall_flow (P := fun direction => Within (base direction)) packet.direction hearlier
  generalize flow packet.direction earlier = seen at hwithin
  by_cases hnil : seen = []
  · subst hnil
    constructor
    · exact fun _ _ _ first _ hfirst => (by cases hfirst)
    · rintro - ⟨-, -, _, hnext, -⟩
      cases hnext
  · obtain ⟨first, expected, hfirst, hnext, hlow, hhigh, hreached⟩ := reached_observed hwithin hnil
    have hiff := covered_iff_repeats hpacket hlow hhigh hreached
    constructor
    · rintro h hdrops hduplicate f e hf he hbefore
      obtain rfl := Option.mem_unique hfirst hf
      obtain rfl := Option.mem_unique hnext he
      exact hiff.1 (h ⟨hdrops, hduplicate, expected, hnext, hbefore⟩)
    · rintro h ⟨hdrops, hduplicate, e, he, hbefore⟩
      obtain rfl := Option.mem_unique hnext he
      exact hiff.2 (h hdrops hduplicate first expected hfirst hnext hbefore)

/-- A segment without flags and with no acknowledgement, in the forward direction. -/
def segment (sequence payloadLength : UInt32) : TcpObservation := ⟨.forward, sequence, 0, 65535, 0, payloadLength⟩

/-- A segment received twice. -/
theorem retransmission_covered_sample :
    Answered (flow .forward [(segment 10 10, 0), (segment 40 5, 0)]) (segment 12 8) 0 := by
  refine (retransmission_covered_iff (fun _ => 0) [(segment 10 10, 0), (segment 40 5, 0)] (segment 12 8) 0 ?_ ?_).1 ?_
  · decide
  · decide
  · intro _
    refine ⟨by decide, fun x hx => ⟨(segment 10 10, 0), by decide, ?_⟩⟩
    obtain ⟨hfrom, hto⟩ := (span_iff_toNat (by decide) x).1 hx
    exact (span_iff_toNat (by decide) x).2 ⟨Nat.le_trans (by decide) hfrom, hto⟩

/-- Three segments called observed retransmissions: an ACK that carries nothing, one half of whose bytes are new, and
one that starts before anything that was observed. -/
theorem retransmission_of_unobserved_data :
    (let acknowledgement : TcpObservation := ⟨.forward, 15, 7, 65535, ack, 0⟩
     ((observeAll [(segment 10 10, 0)]).observe acknowledgement 0).1.classification = .observedRetransmission ∧
       acknowledgement.consumes = 0) ∧
    (((observeAll [(segment 10 10, 0)]).observe (segment 15 10) 0).1.classification = .observedRetransmission ∧
      ¬ Covered (flow .forward [(segment 10 10, 0)]) (segment 15 10)) ∧
    (((observeAll [(segment 10 10, 0)]).observe (segment 0 5) 0).1.classification = .observedRetransmission ∧
      ¬ Covered (flow .forward [(segment 10 10, 0)]) (segment 0 5)) := by
  refine ⟨by decide, ⟨by decide, fun h => ?_⟩, by decide, fun h => ?_⟩
  · exact absurd (h 20 (by decide)) (by decide)
  · exact absurd (h 0 (by decide)) (by decide)

/-! ## Catching up -/

/-- Every number from the first segment's up to the point was observed, and the point was not. -/
def FirstMissing (seen : List Capture) (x : UInt32) : Prop :=
  ∃ first, firstSequence seen = some first ∧ (∀ y, Span first (offset first x) y → Observed seen y) ∧ ¬ Observed seen x

/-- The segment ends inside the half of the circle that starts at the base. -/
def Inside (base : UInt32) (packet : TcpObservation) : Prop :=
  offset base packet.sequence + packet.consumes.toNat < 2 ^ 31

instance (base : UInt32) (packet : TcpObservation) : Decidable (Inside base packet) :=
  inferInstanceAs (Decidable (_ < _))

/-- The later segment starts at or before the end of the earlier one. -/
def Adjoins (earlier later : Capture) : Prop := offset later.1.sequence earlier.1.stop < 2 ^ 31

/-- Some of the segments, in the order in which they came and from the first on, lead up to the point: each adjoins the
one before it, and the last ends at the point. -/
def Chained (seen : List Capture) (x : UInt32) : Prop :=
  ∃ first later chain, seen = first :: later ∧ chain.Sublist later ∧ (first :: chain).IsChain Adjoins ∧
    (chain.getLastD first).1.stop = x

section
variable {base expected : UInt32} {later chain : List Capture} {first : Capture} {state : TcpFlowState}

theorem Inside.within {packet : TcpObservation} (h : Inside base packet) : Within base packet := by
  unfold Inside at h
  exact ⟨by omega, by omega⟩

theorem Inside.stop_lt {packet : TcpObservation} (h : Inside base packet) : offset base packet.stop < 2 ^ 31 :=
  (offset_add (Nat.lt_trans h (by decide))).trans_lt h

theorem Inside.adjoins_iff {capture : Capture} (h : Inside base first.1) (hcapture : Inside base capture.1) :
    Adjoins first capture ↔ offset base capture.1.sequence ≤ offset base first.1.stop := by
  have := h.stop_lt
  have := hcapture.within.1
  unfold Adjoins
  rw [offset_of_base base first.1.stop capture.1.sequence]
  omega

/-- Inside, the expected number only moves on, and past the end of a segment that starts at or before it. -/
theorem Inside.carried {capture : Capture} {old : UInt32} (h : Inside base capture.1)
    (hstate : state.nextSeq = some old) (hhalf : offset base old < 2 ^ 31) :
    ∃ new, (state.observe capture.1 capture.2).2.nextSeq = some new ∧ offset base new < 2 ^ 31 ∧
      offset base old ≤ offset base new ∧
      (offset base capture.1.sequence ≤ offset base old → offset base capture.1.stop ≤ offset base new) := by
  obtain ⟨new, hnew, hmoved, hcarried⟩ := observe_within h.within hstate hhalf.le
  refine ⟨new, hnew, ?_, hcarried hhalf⟩
  rcases hmoved with rfl | ⟨rfl, -⟩
  · exact hhalf
  · exact h.stop_lt

section
variable (hlater : ∀ capture ∈ later, Inside base capture.1) (hfirst : Inside base first.1)
  (hnext : (later.foldl (fun state capture => (state.observe capture.1 capture.2).2) state).nextSeq = some expected)
include hlater hfirst hnext

/-- The segments that moved the expected number are a chain up to it. -/
theorem exists_chain (hstate : state.nextSeq = some first.1.stop) :
    ∃ chain, chain.Sublist later ∧ (first :: chain).IsChain Adjoins ∧ (chain.getLastD first).1.stop = expected := by
  induction later generalizing first state with
  | nil => exact ⟨[], .slnil, .singleton _, Option.mem_unique hstate hnext⟩
  | cons capture later ih =>
    obtain ⟨hcapture, hlater⟩ := forall_mem_cons.1 hlater
    obtain ⟨new, hnew, hmoved, -⟩ := observe_within hcapture.within hstate hfirst.stop_lt.le
    rcases hmoved with rfl | ⟨rfl, hle⟩
    · obtain ⟨chain, hsub, hchain⟩ := ih hlater hfirst hnext hnew
      exact ⟨chain, hsub.cons _, hchain⟩
    · obtain ⟨chain, hsub, hchain, hlast⟩ := ih hlater hcapture hnext hnew
      refine ⟨capture :: chain, hsub.cons_cons _, .cons_cons ((hfirst.adjoins_iff hcapture).2 hle) hchain, ?_⟩
      rwa [getLastD_cons]

/-- No chain leads past the expected number. -/
theorem chain_le {old : UInt32} (hstate : state.nextSeq = some old) (hold : offset base first.1.stop ≤ offset base old)
    (hhalf : offset base old < 2 ^ 31) (hsub : chain.Sublist later) (hchain : (first :: chain).IsChain Adjoins) :
    offset base (chain.getLastD first).1.stop ≤ offset base expected := by
  induction hsub generalizing first state old with
  | slnil =>
    rw [← Option.mem_unique hstate hnext]
    exact hold
  | cons capture _ ih =>
    obtain ⟨hcapture, hlater⟩ := forall_mem_cons.1 hlater
    obtain ⟨new, hnew, hnewHalf, hon, hcarried⟩ := hcapture.carried hstate hhalf
    exact ih hlater hfirst hnext hnew (hold.trans hon) hnewHalf hchain
  | cons_cons capture _ ih =>
    obtain ⟨hcapture, hlater⟩ := forall_mem_cons.1 hlater
    obtain ⟨new, hnew, hnewHalf, hon, hcarried⟩ := hcapture.carried hstate hhalf
    obtain ⟨hadjoins, hchain⟩ := isChain_cons_cons.1 hchain
    have hle := ((hfirst.adjoins_iff hcapture).1 hadjoins).trans hold
    rw [getLastD_cons]
    exact ih hlater hcapture hnext hnew (hcarried hle) hnewHalf hchain

end

/-- The first missing number does not lie before the first segment: the numbers between would go round the circle. -/
theorem FirstMissing.first_le {x start : UInt32} (hpoint : FirstMissing seen x)
    (hstart : firstSequence seen = some start)
    (hwithin : ∀ capture ∈ seen, Inside base capture.1) (hx : offset base x < 2 ^ 31)
    (hhalf : offset base start < 2 ^ 31) : offset base start ≤ offset base x := by
  obtain ⟨_, hstart', hbelow, -⟩ := hpoint
  obtain rfl := Option.mem_unique hstart hstart'
  by_contra hlt
  have hfar : offset base (base + 0x80000000) = 2 ^ 31 := by
    rw [offset_add] <;> rw [offset_self] <;> decide
  obtain ⟨capture, hmem, hspan⟩ := hbelow (base + 0x80000000) (by
    unfold Span
    rw [offset_of_base base _ start, offset_of_base base x start]
    omega)
  have hinside : _ < _ := hwithin capture hmem
  rw [span_iff (hinside.le.trans (by decide))] at hspan
  omega

/-- **The expected number is the first missing one exactly when a chain leads up to that.** -/
theorem nextSeq_eq_iff_chained {x : UInt32} (hwithin : ∀ capture ∈ seen, Inside base capture.1)
    (hx : offset base x < 2 ^ 31)
    (hpoint : FirstMissing seen x) : (observeFlow seen).nextSeq = some x ↔ Chained seen x := by
  cases seen with
  | nil =>
    obtain ⟨_, hfirst, -⟩ := hpoint
    cases hfirst
  | cons first later =>
    obtain ⟨hfirst, hlater⟩ := forall_mem_cons.1 hwithin
    have hstate : (({} : TcpFlowState).observe first.1 first.2).2.nextSeq = some first.1.stop :=
      observeFlow_singleton first
    constructor
    · intro hnext
      obtain ⟨chain, hsub, hchain⟩ := exists_chain hlater hfirst hnext hstate
      exact ⟨first, later, chain, rfl, hsub, hchain⟩
    · rintro ⟨_, _, chain, heq, hsub, hchain, rfl⟩
      cases heq
      obtain ⟨start, expected, hstart, hnext, hstartHalf, -, hreached⟩ :=
        reached_observed (fun capture hmem => (hwithin capture hmem).within) (cons_ne_nil _ _)
      have hupper := chain_le hlater hfirst hnext hstate (Nat.le_refl _) hfirst.stop_lt hsub hchain
      have hlower := hpoint.first_le hstart hwithin hx hstartHalf
      obtain ⟨_, -, -, hmissing⟩ := hpoint
      have hsame : offset base (chain.getLastD first).1.stop = offset base expected :=
        Nat.le_antisymm hupper (Nat.not_lt.1 fun hlt => hmissing (hreached _ hlower hlt))
      rw [hnext, offset_inj hsame]

end

/-- A run of segments as `FirstMissing` asks for it, from zero on. -/
theorem firstMissing_of_below (hfirst : firstSequence seen = some 0)
    (hbelow : ∀ y : UInt32, y.toNat < x.toNat → Observed seen y) (hmissing : ¬ Observed seen x) :
    FirstMissing seen x := by
  refine ⟨0, hfirst, fun y hy => hbelow y ?_, hmissing⟩
  unfold Span at hy
  rwa [offset_zero, offset_zero] at hy

/-- Every segment with the state it meets. -/
def steps (state : TcpFlowState) : List Capture → List (TcpFlowState × Capture)
  | [] => []
  | capture :: seen => (state, capture) :: steps (state.observe capture.1 capture.2).2 seen

/-- How far a segment moves the expected number: the first one sets it, and a later one moves it by the signed
difference; half the circle away `seq_after` holds, and that is forward. -/
def advance (state : TcpFlowState) (capture : Capture) : Int :=
  match state.nextSeq, (state.observe capture.1 capture.2).2.nextSeq with
  | some old, some new => if offset old new ≤ 2 ^ 31 then offset old new else offset old new - 2 ^ 32
  | _, new => (new.getD 0).toNat

/-- The expected number as an integer. -/
def lifted (seen : List Capture) : Int := ((steps {} seen).map (fun step => advance step.1 step.2)).sum

/-- How many segments got a classification of the kind. -/
def classified (kind : TcpClassification → Bool) (seen : List Capture) : Nat :=
  (steps {} seen).countP (fun step => kind (step.1.observe step.2.1 step.2.2).1)

theorem steps_append (state : TcpFlowState) (seen : List Capture) (capture : Capture) :
    steps state (seen ++ [capture]) =
      steps state seen ++ [(seen.foldl (fun state capture => (state.observe capture.1 capture.2).2) state,
        capture)] := by
  induction seen generalizing state with
  | nil => rfl
  | cons first seen ih => exact congrArg _ (ih _)

theorem lifted_append (seen : List Capture) (capture : Capture) :
    lifted (seen ++ [capture]) = lifted seen + advance (observeFlow seen) capture := by
  unfold lifted
  rw [steps_append, map_append, sum_append]
  exact congrArg _ (Int.add_zero _)

/-- The expected number moves to the end of a segment only: the first, one that starts there, or one that starts before
and ends after it. -/
theorem observe_nextSeq (state : TcpFlowState) (packet : TcpObservation) (captureDrops : UInt64) :
    (state.observe packet captureDrops).2.nextSeq = state.nextSeq ∨
      (state.observe packet captureDrops).2.nextSeq = some packet.stop ∧ ∀ expected, state.nextSeq = some expected →
        packet.sequence = expected ∨ seqAfter packet.stop expected = true := by
  rcases TcpFlowState.observe_cases state packet captureDrops with
    ⟨-, hobserve⟩ | ⟨-, ⟨hequal, hobserve⟩ | ⟨e, he, -, ⟨-, -, hmoved⟩ | ⟨-, hobserve⟩⟩⟩
  · exact .inl (by rw [hobserve]; rfl)
  · exact .inr ⟨by rw [hobserve]; rfl, fun expected hnext => .inl (hequal expected hnext)⟩
  · rw [hmoved, he]
    cases hcatch : seqAfter packet.stop e with
    | true => exact .inr ⟨rfl, fun _ h => Option.some.inj h ▸ .inr hcatch⟩
    | false => exact .inl rfl
  · exact .inl (by rw [hobserve]; rfl)

/-- **The lifted number is the expected one on the circle, and that is where some segment ended.** -/
theorem lifted_reached (seen : List Capture) : lifted seen % 2 ^ 32 = ((observeFlow seen).nextSeq.getD 0).toNat ∧
    ∀ expected, (observeFlow seen).nextSeq = some expected → ∃ capture ∈ seen, capture.1.stop = expected := by
  induction seen using List.reverseRecOn with
  | nil => exact ⟨rfl, fun _ h => (by cases h)⟩
  | append_singleton seen capture ih =>
    obtain ⟨hlifted, hreached⟩ := ih
    have hmoves := observe_nextSeq (observeFlow seen) capture.1 capture.2
    rw [lifted_append, observeFlow_append]
    unfold advance
    generalize ((observeFlow seen).observe capture.1 capture.2).2.nextSeq = new at hmoves ⊢
    constructor
    · have hnew := (new.getD 0).toNat_lt
      cases hnext : (observeFlow seen).nextSeq with
      | none =>
        rw [hnext] at hlifted
        have hzero : lifted seen % 2 ^ 32 = 0 := hlifted
        dsimp only
        omega
      | some old =>
        rw [hnext, Option.getD_some] at hlifted
        obtain ⟨new, rfl⟩ : ∃ x, new = some x := hmoves.elim (fun h => ⟨old, h.trans hnext⟩) (fun h => ⟨_, h.1⟩)
        have hoffset := offset_eq old new
        rw [Option.getD_some] at hnew ⊢
        dsimp only
        split <;> omega
    · rintro expected rfl
      rcases hmoves with hkept | ⟨hmoved, -⟩
      · obtain ⟨earlier, hmem, hstop⟩ := hreached expected hkept.symm
        exact ⟨earlier, mem_append_left _ hmem, hstop⟩
      · exact ⟨capture, mem_append_right _ (mem_singleton_self _), Option.some.inj hmoved.symm⟩

/-- **No segment moves the expected number back.** -/
theorem advance_nonneg (state : TcpFlowState) {capture : Capture} (hpayload : capture.1.payloadLength.toNat < 2 ^ 16) :
    0 ≤ advance state capture := by
  have hconsumes : capture.1.consumes.toNat < 2 ^ 17 := by
    unfold TcpObservation.consumes saturatingAdd32
    split <;> split <;> simp <;> omega
  unfold advance
  cases hnext : state.nextSeq with
  | none => exact Int.natCast_nonneg _
  | some expected =>
    rcases observe_nextSeq state capture.1 capture.2 with hkept | ⟨hmoved, hends⟩
    · have hself := offset_self expected
      rw [hkept, hnext]
      dsimp only
      omega
    · have hstop : offset expected capture.1.stop ≤ 2 ^ 31 := by
        rcases hends expected hnext with hequal | hafter
        · rw [TcpObservation.stop, hequal, offset_add] <;> rw [offset_self] <;> omega
        · have hfar := (before_iff_offset expected capture.1.stop).1 hafter
          rw [offset_of_base expected expected capture.1.stop, offset_self] at hfar
          omega
      rw [hmoved]
      dsimp only
      omega

theorem classified_append (kind : TcpClassification → Bool) (seen : List Capture) (capture : Capture) :
    classified kind (seen ++ [capture]) =
      classified kind seen + if kind ((observeFlow seen).observe capture.1 capture.2).1 then 1 else 0 := by
  unfold classified
  rw [steps_append, countP_append, countP_singleton]
  rfl

/-- A counter stands at the number of its segments until it is full. -/
theorem toNat_counter {counter : TcpFlowState → UInt64} (kind : TcpClassification → Bool) (hzero : counter {} = 0)
    (hstep : ∀ state packet captureDrops, counter (TcpFlowState.observe state packet captureDrops).2 =
      if kind (state.observe packet captureDrops).1 then countUp (counter state) else counter state)
    (seen : List Capture) :
    (counter (observeFlow seen)).toNat = min (classified kind seen) (2 ^ 64 - 1) := by
  induction seen using List.reverseRecOn with
  | nil => exact congrArg UInt64.toNat hzero
  | append_singleton seen capture ih =>
    rw [observeFlow_append, classified_append, hstep]
    split
    · unfold countUp
      rw [UInt64.toNat_ofNat_of_lt' (Nat.lt_of_le_of_lt (Nat.min_le_right ..) (by decide))]
      omega
    · exact ih

theorem observe_counts (state : TcpFlowState) (packet : TcpObservation) (captureDrops : UInt64) :
    (state.observe packet captureDrops).2.retransmissionCount =
      (if (state.observe packet captureDrops).1.isRetransmission then countUp state.retransmissionCount
        else state.retransmissionCount) ∧
    (state.observe packet captureDrops).2.outOfOrderCount =
      if (state.observe packet captureDrops).1 == .outOfOrder then countUp state.outOfOrderCount
        else state.outOfOrderCount := by
  have hcatchUp : ∀ (s : TcpFlowState) classification, (s.catchUp packet classification).retransmissionCount =
      s.retransmissionCount ∧ (s.catchUp packet classification).outOfOrderCount = s.outOfOrderCount := by
    intro s classification
    unfold TcpFlowState.catchUp
    split <;> exact ⟨rfl, rfl⟩
  unfold TcpFlowState.observe TcpFlowState.note
  rw [(hcatchUp _ _).1, (hcatchUp _ _).2]
  unfold TcpFlowState.classify
  split
  · exact ⟨rfl, rfl⟩
  · split
    · split
      · split <;> exact ⟨rfl, rfl⟩
      · split <;> exact ⟨rfl, rfl⟩
    · exact ⟨rfl, rfl⟩

/-- What the analyzer keeps of a run: in each direction the expected number never goes back and is the end of a segment,
a segment leaves the other direction alone, and the counters, of 64 bits each, are right up to their largest value. -/
structure AnalyzerLaws (run : List Capture) : Prop where
  increasing : ∀ direction earlier capture later, flow direction run = earlier ++ capture :: later →
    lifted earlier ≤ lifted (earlier ++ [capture])
  reached : ∀ direction expected, ((observeAll run).side direction).nextSeq = some expected →
    lifted (flow direction run) % 2 ^ 32 = expected.toNat ∧ ∃ capture ∈ flow direction run, capture.1.stop = expected
  apart : ∀ direction packet captureDrops, packet.direction ≠ direction →
    ((observeAll run).observe packet captureDrops).2.side direction = (observeAll run).side direction
  retransmissions : ∀ direction, ((observeAll run).side direction).retransmissionCount.toNat =
    min (classified (·.isRetransmission) (flow direction run)) (2 ^ 64 - 1)
  outOfOrder : ∀ direction, ((observeAll run).side direction).outOfOrderCount.toNat =
    min (classified (· == .outOfOrder) (flow direction run)) (2 ^ 64 - 1)

/-- **The laws hold of every run.** -/
theorem analyzer_laws (run : List Capture) (hpayload : ∀ capture ∈ run, capture.1.payloadLength.toNat < 2 ^ 16) :
    AnalyzerLaws run where
  increasing := by
    intro direction earlier capture later hflow
    have hmem : capture ∈ flow direction run := by simp [hflow]
    have hforward := advance_nonneg (observeFlow earlier) (hpayload capture (mem_filter.1 hmem).1)
    rw [lifted_append]
    omega
  reached := by
    intro direction expected hnext
    rw [side_observeAll] at hnext
    obtain ⟨hlifted, hreached⟩ := lifted_reached (flow direction run)
    rw [hnext] at hlifted
    exact ⟨hlifted, hreached expected hnext⟩
  apart := by
    intro direction packet captureDrops hother
    unfold TcpFlowAnalyzer.observe
    revert hother
    cases packet.direction <;> cases direction <;> intro hother <;> first | rfl | exact absurd rfl hother
  retransmissions := fun direction => side_observeAll direction run ▸
    toNat_counter (·.isRetransmission) rfl (fun s p d => (observe_counts s p d).1) (flow direction run)
  outOfOrder := fun direction => side_observeAll direction run ▸
    toNat_counter (· == TcpClassification.outOfOrder) rfl (fun s p d => (observe_counts s p d).2) (flow direction run)

/-- Data that came in the wrong order, and an ACK half the circle away. -/
theorem analyzer_laws_sample :
    AnalyzerLaws [(segment 0 10, 0), (segment 20 10, 0), (segment 10 10, 0), (segment 0x80000014 0, 0)] :=
  analyzer_laws _ (by decide)

/-- One segment, and then again and again one that is ahead of it. -/
def ahead (n : Nat) : List Capture := (segment 0 0, 0) :: List.replicate n (segment 1 1, 0)

theorem observe_ahead (n : Nat) : (observeFlow (ahead n)).nextSeq = some 0 ∧
    classified (· == .outOfOrder) (ahead n) = n := by
  induction n with
  | zero => decide
  | succ n ih =>
    obtain ⟨hnext, hcount⟩ := ih
    unfold ahead at hnext hcount ⊢
    rw [replicate_succ', ← cons_append, observeFlow_append, classified_append, hcount]
    generalize observeFlow _ = state at hnext
    rcases state.observe_cases (segment 1 1) 0 with
      ⟨⟨⟩, -⟩ | ⟨-, ⟨hequal, -⟩ | ⟨e, he, -, ⟨hbefore, -⟩ | ⟨-, hobserve⟩⟩⟩
    · exact absurd (hequal 0 hnext) (by decide)
    · rw [← Option.mem_unique hnext he] at hbefore
      exact absurd hbefore (by decide)
    · rw [hobserve]
      exact ⟨hnext, rfl⟩

/-- A counter that is full counts no further. -/
theorem full_counter_stays : ∃ run : List Capture, (∀ capture ∈ run, capture.1.payloadLength.toNat < 2 ^ 16) ∧
    ((observeAll run).side .forward).outOfOrderCount.toNat ≠ classified (· == .outOfOrder) (flow .forward run) := by
  obtain ⟨n, hn⟩ : ∃ n, n = 2 ^ 64 := ⟨_, rfl⟩
  have hflow : flow .forward (ahead n) = ahead n := by simp [flow, ahead, segment]
  refine ⟨ahead n, by simp [ahead, segment], fun hequal => ?_⟩
  have hcount := (observe_ahead n).2
  have hlimit := UInt64.toNat_lt ((observeAll (ahead n)).side .forward).outOfOrderCount
  rw [hflow] at hequal
  omega

end Packet
end NetTool
