import Mathlib.Logic.Function.Basic
/-!
# AfXdp.Redirect — the XDP program of `attach_redirect` (`crates/backend-af-xdp`)

`redirect_instructions` is five hand-encoded eBPF slots, which the kernel runs on every received packet.  The machine
below keeps what the verifier keeps of a register, whether it has been written, and stops at the first read of one that
has not.  `bpf_redirect_map` takes three arguments and the program writes two of them: the flags are whatever `r3` holds
on entry.
-/
namespace NetTool
namespace AfXdp

/-- One slot, `struct bpf_insn`: `regs` has the destination in its low four bits and the source in its high four. -/
structure BpfInsn where
  code : UInt8
  regs : UInt8
  off : Int16
  imm : Int32

def bpfFuncRedirectMap : Int32 := 51

def redirectInstructions (mapFd : Int32) : List BpfInsn :=
  [⟨0x61, 0x12, 16, 0⟩,                   -- r2 = ctx->rx_queue_index (xdp_md offset 16)
   ⟨0x18, 0x11, 0, mapFd⟩,                -- r1 = map fd pseudo pointer, in two slots
   ⟨0, 0, 0, 0⟩,
   ⟨0x85, 0, 0, bpfFuncRedirectMap⟩,      -- r0 = bpf_redirect_map(r1, r2, 0)
   ⟨0x95, 0, 0, 0⟩]                       -- return r0

/-! ## The machine -/

inductive Instruction where
  | loadWord (dst src : Nat) (off : Int16)
  | loadMap (dst : Nat) (fd : Int32)
  | call (helper : Int32)
  | exit

/-- The instructions of a list of slots; a 64-bit immediate takes the slot after it, whose code is zero. -/
def decode : List BpfInsn → Option (List Instruction)
  | [] => some []
  | insn :: rest =>
    let dst := insn.regs.toNat % 16
    let src := insn.regs.toNat / 16
    match insn.code.toNat, rest with
    | 0x61, rest => (decode rest).map (.loadWord dst src insn.off :: ·)
    | 0x18, high :: rest =>
      -- the source field 1 is `BPF_PSEUDO_MAP_FD`; a plain 64-bit number is not an instruction of this program
      if src = 1 ∧ high.code = 0 then (decode rest).map (.loadMap dst insn.imm :: ·) else none
    | 0x85, rest => (decode rest).map (.call insn.imm :: ·)
    | 0x95, rest => (decode rest).map (.exit :: ·)
    | _, _ => none

inductive Value where
  | context
  | frame
  | map (fd : Int32)
  | number (n : Nat)

/-- What a register holds, if anything has been written to it. -/
abbrev Registers := Nat → Option Value

/-- What a run reads of its surroundings: the packet's `xdp_md`, as 32-bit words by offset, and the helper. -/
structure Kernel where
  xdpMd : Int16 → UInt32
  redirectMap : Int32 → Nat → Nat → Nat

def Kernel.rxQueueIndex (k : Kernel) : Nat := (k.xdpMd 16).toNat

inductive Outcome where
  | returned (result : Nat)
  | uninitialised (register : Nat)
  | rejected

/-- The value of a register, handed on if it has been written. -/
def read (regs : Registers) (register : Nat) (next : Value → Outcome) : Outcome :=
  (regs register).elim (.uninitialised register) next

def run (k : Kernel) : List Instruction → Registers → Outcome
  | [], _ => .rejected
  | .loadWord dst src off :: rest, regs => read regs src fun
    | .context => run k rest (Function.update regs dst (some (.number (k.xdpMd off).toNat)))
    | _ => .rejected
  | .loadMap dst fd :: rest, regs => run k rest (Function.update regs dst (some (.map fd)))
  | .call helper :: rest, regs =>
    if helper = bpfFuncRedirectMap then
      read regs 1 fun map => read regs 2 fun key => read regs 3 fun flags =>
        match map, key, flags with
        | .map fd, .number key, .number flags =>
          -- a call leaves its result in r0 and the argument registers r1 to r5 unreadable
          run k rest fun r =>
            if r = 0 then some (.number (k.redirectMap fd key flags)) else if r ≤ 5 then none else regs r
        | _, _, _ => .rejected
    else .rejected
  | .exit :: _, regs => read regs 0 fun
    | .number n => .returned n
    | _ => .rejected

def execute (k : Kernel) (program : List BpfInsn) (regs : Registers) : Outcome :=
  ((decode program).map (run k · regs)).getD .rejected

/-- The registers on entry: the context in `r1`, the frame pointer in `r10`, and in the others what is given. -/
def entry (others : Registers) : Registers := fun r =>
  if r = 1 then some .context else if r = 10 then some .frame else others r

/-! ## The program -/

theorem decode_redirect (mapFd : Int32) :
    decode (redirectInstructions mapFd) =
      some [.loadWord 2 1 16, .loadMap 1 mapFd, .call bpfFuncRedirectMap, .exit] := by
  simp [decode, redirectInstructions]

/-- **The program reads its flags from `r3`**: with nothing written there it stops at the call, whatever the map and
packet. -/
theorem execute_redirect (k : Kernel) (mapFd : Int32) (others : Registers) :
    execute k (redirectInstructions mapFd) (entry others) =
      read others 3 fun
        | .number flags => .returned (k.redirectMap mapFd k.rxQueueIndex flags)
        | _ => .rejected := by
  cases h : others 3 with
  | none => simp [execute, decode_redirect, run, read, entry, h]
  | some flags =>
    cases flags <;> simp [execute, decode_redirect, run, read, entry, h, Kernel.rxQueueIndex]

/-- **The redirect is to the packet's queue with no flags exactly if `r3` is zero on entry**, for every packet and every
helper; the program itself does not write that register. -/
theorem redirects_iff (mapFd : Int32) (others : Registers) :
    (∀ k : Kernel, execute k (redirectInstructions mapFd) (entry others) =
        .returned (k.redirectMap mapFd k.rxQueueIndex 0)) ↔
      others 3 = some (.number 0) := by
  constructor
  · intro h
    -- a helper that returns its flags tells them apart
    have hflags := h ⟨fun _ => 0, fun _ _ flags => flags⟩
    rw [execute_redirect, read] at hflags
    cases h3 : others 3 with
    | none => simp [h3] at hflags
    | some value => cases value <;> simp_all
  · intro h k
    simp [execute_redirect, read, h]

/-- **On the entry the kernel gives, the call reads `r3` unwritten.** -/
theorem redirect_flags_uninitialised :
    execute ⟨fun _ => 4, fun _ key _ => key⟩ (redirectInstructions 7) (entry fun _ => none) = .uninitialised 3 := rfl

end AfXdp
end NetTool
