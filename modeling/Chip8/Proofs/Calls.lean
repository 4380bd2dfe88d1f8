/-
  Chip8/Proofs/Calls.lean
  =======================
  **The call stack is a list of open calls** — entries and depth, with all their
  rules for indices outside, never show anything but a list of return addresses:
  a call appends to it, a return takes its last element off.

  The list is told from the history of a run alone: `openCalls` goes through the
  words that ran, and does not look at the stack.  `CallStack.Shows` ties it to the
  entries; one step keeps the tie (`shows_perform`), so a run from the initial
  machine keeps it, and the errors of the stack can be read off the length of the
  list.
-/
import Chip8.Proofs.Operations

namespace Chip8

namespace CallStack

/-! ### Indices inside the stack -/

theorem setEntry_natCast (entries : Vector UInt16 16) (n : Nat) (a : UInt16) :
    setEntry entries n a = Cells.write entries n a := by
  have hslot : slot (n : Int) = n := if_neg (by omega)
  rw [setEntry, hslot, if_pos (by omega), Int.toNat_natCast]

theorem entryAt_natCast (s : CallStack) {n : Nat} (hn : n < 16) : s.entryAt n = s.entries[n] := by
  have hslot : slot (n : Int) = n := if_neg (by omega)
  rw [entryAt, hslot, Int.toNat_natCast, Cells.read_of_lt _ hn]

theorem toInt_succ {d : Int32} {n : Nat} (h : d.toInt = n) (hn : n < capacity) :
    (d + 1).toInt = (n + 1 : Nat) := by
  have hone : (1 : Int32).toInt = 1 := by decide
  have hn : n < 16 := hn
  rw [Int32.toInt_add, h, hone]
  exact Int.bmod_eq_of_le (by omega) (by omega)

theorem toInt_pred {d : Int32} {n : Nat} (h : d.toInt = (n + 1 : Nat)) (hn : n < capacity) :
    (d - 1).toInt = n := by
  have hone : (1 : Int32).toInt = 1 := by decide
  have hn : n < 16 := hn
  rw [Int32.toInt_sub, h, hone]
  have hbmod : ((n + 1 : Nat) - 1 : Int).bmod (2 ^ 32) = ((n + 1 : Nat) - 1 : Int) :=
    Int.bmod_eq_of_le (by omega) (by omega)
  omega

/-! ### Stacks and lists -/

/-- The stack shows a list of return addresses, oldest first, and zeros after it. -/
structure Shows (s : CallStack) (calls : List UInt16) : Prop where
  depth : s.depth.toInt = calls.length
  fits : calls.length ≤ capacity
  entries : ∀ (i : Nat) (hi : i < 16), s.entries[i] = calls.getD i 0

variable {s : CallStack} {calls : List UInt16} {a : UInt16}

theorem shows_empty : empty.Shows [] where
  depth := by decide
  fits := by decide
  entries i hi := by simp [empty]

theorem Shows.toList (h : s.Shows calls) :
    s.entries.toList = calls ++ List.replicate (capacity - calls.length) 0 := by
  have hfits := h.fits
  apply List.ext_getElem
  · simp only [Vector.length_toList, List.length_append, List.length_replicate, capacity] at *
    omega
  · intro i hi _
    rw [Vector.length_toList] at hi
    rw [Vector.getElem_toList, h.entries i hi, List.getElem_append]
    split
    · next hlt => simp [hlt]
    · next hge => simp [hge]

/-- The depth is zero just when no call is open. -/
theorem Shows.depth_eq_zero_iff (h : s.Shows calls) : s.depth = 0 ↔ calls = [] := by
  rw [← Int32.toInt_inj, h.depth]
  simp

theorem Shows.push (h : s.Shows calls) (hroom : calls.length < capacity) (a : UInt16) :
    (s.push a).Shows (calls ++ [a]) where
  depth := by
    rw [CallStack.push, toInt_succ h.depth hroom, List.length_append, List.length_singleton]
  fits := by
    rw [List.length_append]
    exact hroom
  entries i hi := by
    simp only [CallStack.push, h.depth, setEntry_natCast, Cells.getElem_write]
    split
    · next heq => simp [← heq]
    · next hne =>
      rw [h.entries i hi]
      grind

/-- A return takes the last call off, and clears its entry. -/
theorem Shows.pop (h : s.Shows (calls ++ [a])) : s.pop.1 = a ∧ s.pop.2.Shows calls := by
  have hfits : calls.length < capacity := by
    have := h.fits
    rwa [List.length_append] at this
  have hdepth : (s.depth - 1).toInt = calls.length :=
    toInt_pred (by simpa using h.depth) hfits
  constructor
  · simp only [CallStack.pop, hdepth, entryAt_natCast s hfits, h.entries _ hfits]
    simp
  · refine ⟨hdepth, Nat.le_of_lt hfits, fun i hi => ?_⟩
    simp only [CallStack.pop, hdepth, setEntry_natCast, Cells.getElem_write]
    split
    · next heq => simp [← heq]
    · next hne =>
      rw [h.entries i hi]
      grind

end CallStack

/-! ### The open calls of a run -/

namespace Machine

/-- The open calls after the word at the program counter has run: a call adds the
    address after it, a return closes the latest call. -/
def track (calls : List UInt16) (m : Machine) : List UInt16 :=
  if (Opcode.ofWord m.peek).family = 0x2 then calls ++ [m.pc + 2]
  else if m.peek = 0x00EE then calls.dropLast
  else calls

/-- The return addresses, oldest first, of the calls that completed in a sequence of
    operations and that no return in it has closed. -/
def openCalls (m : Machine) (ops : List Operation) : List UInt16 :=
  (m.completions ops).foldl track []

variable {m m' : Machine} {decay : Bool} {calls : List UInt16}

theorem stack_ran_of_call (h : (Opcode.ofWord m.peek).family = 0x2) :
    (m.ran decay).stack = m.stack.push (m.pc + 2) := by
  have hcall : Instruction.ofWord m.peek =
      .call (Fin.ofNat 4096 (Opcode.ofWord m.peek).nnn) := by
    simp only [Instruction.ofWord, Instruction.ofOpcode, h]
  rw [ran, stack_tickIf, execute, hcall]
  rfl

theorem ran_of_return (h : m.peek = 0x00EE) :
    (m.ran decay).stack = m.stack.pop.2 ∧ (m.ran decay).pc = m.stack.pop.1 := by
  have hret : Instruction.ofWord m.peek = .ret := by
    rw [h]
    decide
  rw [ran, stack_tickIf, pc_tickIf, execute, hret]
  exact ⟨rfl, rfl⟩

/-- One step keeps the stack and the open calls together. -/
theorem shows_ran (h : m.stack.Shows calls) (hstep : m.step decay = .ok ⟨m', true⟩) :
    m'.stack.Shows (track calls m) := by
  obtain ⟨-, hrun, -, rfl⟩ := step_eq_completed_iff.1 hstep
  unfold track
  split
  · next hcall =>
    rw [stack_ran_of_call hcall]
    have hroom := hrun.hasRoom hcall
    rw [h.depth] at hroom
    exact h.push (Int.ofNat_lt.1 hroom) _
  · next hcall =>
    split
    · next hret =>
      have hopen : calls ≠ [] := fun hnil =>
        hrun.hasCall (by rw [hret]; rfl) (h.depth_eq_zero_iff.2 hnil)
      rw [(ran_of_return hret).1]
      rw [← List.dropLast_concat_getLast hopen] at h
      exact h.pop.2
    · next hret =>
      have hsame : Part.stack.Agrees (m.tickIf decay) (m.ran decay) := by
        refine ran_agrees fun hw => ?_
        rcases hw with hw | hw
        · exact hcall hw
        · exact hret (Int.ofNat_inj.1 hw)
      rw [show (m.ran decay).stack = m.stack from Eq.trans hsame (stack_tickIf m decay)]
      exact h

theorem shows_performAll (ops : List Operation) (h : m.stack.Shows calls) :
    (m.performAll ops).stack.Shows ((m.completions ops).foldl track calls) := by
  induction ops generalizing m calls with
  | nil => exact h
  | cons op ops ih =>
    rw [performAll_cons, completions]
    cases hdone : m.completes op with
    | true =>
      obtain ⟨decay, rfl, hstep, hperform⟩ := perform_of_completes hdone
      rw [if_pos rfl, List.foldl_cons]
      refine ih ?_
      rw [hperform]
      exact shows_ran h hstep
    | false =>
      rw [if_neg Bool.false_ne_true]
      refine ih ?_
      have hsame : Part.stack.Agrees m (m.perform op) := by
        refine perform_agrees hdone fun hw => ?_
        cases op <;> simp [Operation.Writes] at hw
      rw [show (m.perform op).stack = m.stack from hsame]
      exact h

/-! ### Returns and the errors of the stack -/

theorem getLast?_of_return (h : m.stack.Shows calls) (hstep : m.step decay = .ok ⟨m', true⟩)
    (hret : m.peek = 0x00EE) : calls.getLast? = some m'.pc := by
  obtain ⟨-, hrun, -, rfl⟩ := step_eq_completed_iff.1 hstep
  have hopen : calls ≠ [] := fun hnil =>
    hrun.hasCall (by rw [hret]; rfl) (h.depth_eq_zero_iff.2 hnil)
  have hlast := List.dropLast_concat_getLast hopen
  rw [← hlast] at h
  rw [(ran_of_return hret).2, h.pop.1]
  exact List.getLast?_eq_some_getLast hopen

theorem step_eq_stackOverflow_iff (h : m.stack.Shows calls) (hpc : m.pc.toNat + 1 < Memory.size)
    (hcall : (Opcode.ofWord m.peek).family = 0x2) (pc : Int) :
    m.step decay = .error (.stackOverflow pc) ↔ calls.length = 16 ∧ pc = m.pc.toNat := by
  have hfull : (CallStack.capacity : Int) ≤ m.stack.depth.toInt ↔ calls.length = 16 := by
    have hfits : calls.length ≤ 16 := h.fits
    rw [h.depth, CallStack.capacity]
    omega
  rw [step_eq_error_iff hpc, check_eq_error_iff, hfull]
  simp [hcall]

theorem step_eq_stackUnderflow_iff (h : m.stack.Shows calls) (hpc : m.pc.toNat + 1 < Memory.size)
    (hret : m.peek = 0x00EE) (pc : Int) :
    m.step decay = .error (.stackUnderflow pc) ↔ calls = [] ∧ pc = m.pc.toNat := by
  rw [step_eq_error_iff hpc, check_eq_error_iff, h.depth_eq_zero_iff]
  simp [hret]

/-- **The call stack refines the list of open calls.**  In every state that a host
    can reach, the entries are the return addresses of the open calls, oldest first,
    and zeros after them; a return goes to the address of the latest open call; and
    a call is refused just when sixteen are open, a return just when none is. -/
theorem stack_refines_openCalls (rng : Random.Key) (ops : List Operation) :
    let m := (initial rng).performAll ops
    let calls := (initial rng).openCalls ops
    (m.stack.depth.toInt = calls.length ∧ calls.length ≤ 16 ∧
      m.stack.entries.toList = calls ++ List.replicate (16 - calls.length) 0) ∧
    (∀ decay m', m.step decay = .ok ⟨m', true⟩ → m.peek = 0x00EE →
      calls.getLast? = some m'.pc) ∧
    (∀ decay pc, m.pc.toNat + 1 < Memory.size → (Opcode.ofWord m.peek).family = 0x2 →
      (m.step decay = .error (.stackOverflow pc) ↔ calls.length = 16 ∧ pc = m.pc.toNat)) ∧
    (∀ decay pc, m.pc.toNat + 1 < Memory.size → m.peek = 0x00EE →
      (m.step decay = .error (.stackUnderflow pc) ↔ calls = [] ∧ pc = m.pc.toNat)) := by
  intro m calls
  have h : m.stack.Shows calls := shows_performAll ops CallStack.shows_empty
  refine ⟨⟨h.depth, h.fits, h.toList⟩, ?_, ?_, ?_⟩
  · intro decay m' hstep hret
    exact getLast?_of_return h hstep hret
  · intro decay pc hpc hcall
    exact step_eq_stackOverflow_iff h hpc hcall pc
  · intro decay pc hpc hret
    exact step_eq_stackUnderflow_iff h hpc hret pc

/-- A subroutine of one word, called from the start of a program, comes back to the
    word after the call. -/
theorem stack_refines_openCalls_return :
    let ops : List Operation := [.load [0x22, 0x04, 0x00, 0x00, 0x00, 0xEE], .step true]
    let m := (initial ⟨0, 0⟩).performAll ops
    (initial ⟨0, 0⟩).openCalls ops = [0x202] ∧ m.step true = .ok ⟨m.ran true, true⟩ ∧
      (m.ran true).pc = 0x202 := by
  intro ops m
  have hcalls : (initial ⟨0, 0⟩).openCalls ops = [0x202] := by decide +kernel
  obtain ⟨hpeek, hpc, hdepth⟩ : m.peek = 0x00EE ∧ m.pc = 0x204 ∧ m.stack.depth = 1 := by
    decide +kernel
  have hstep : m.step true = .ok ⟨m.ran true, true⟩ := by
    rw [step_eq_completed_iff, hpeek, hpc]
    refine ⟨by decide, ⟨by decide, fun _ => ?_, fun h => absurd h (by decide)⟩, by decide, rfl⟩
    rw [hdepth]
    decide
  have hlast := (stack_refines_openCalls ⟨0, 0⟩ ops).2.1 true _ hstep hpeek
  rw [hcalls] at hlast
  exact ⟨hcalls, hstep, (Option.some.inj hlast).symm⟩

end Machine

end Chip8
