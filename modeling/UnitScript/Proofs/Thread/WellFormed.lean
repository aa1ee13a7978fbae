import UnitScript.Proofs.Module.Reference
import UnitScript.Proofs.Thread.Operation

namespace UnitScript

def BlockReason.instr : BlockReason → Instr
  | .sleep _ => .sleep
  | .motion kind piece axis => .waitFor kind piece axis

namespace Frame

def Fits (m : Module) (f : Frame) : Prop :=
  ∃ entry, m.script? f.script = some entry ∧ f.width = entry.locals.toNat ∧
    entry.params.toNat ≤ f.claimed ∧ f.claimed ≤ f.width

/-- Frames, the top one first, down to an entry frame: each of the others goes back to behind a call
of its own script. -/
inductive Chain (m : Module) : List Frame → Prop
  | entry {f : Frame} : f.returnIp = none → Chain m [f]
  | call {f : Frame} {rest : List Frame} {ip : Nat} {argc : UInt8} :
    f.returnIp = some (ip + 1) → m.instr? ip = some (.callScript f.script argc) →
      Chain m rest → Chain m (f :: rest)

variable {m : Module} {f g : Frame} {rest : List Frame}

theorem fits_enter {script : ScriptId} {entry : EntryPoint} (found : m.script? script = some entry)
    (returnIp : Option Nat) (args : List Int32) :
    (enter script returnIp entry.locals.toNat entry.params.toNat args).Fits m := by
  have params := Module.params_le_locals found
  refine ⟨entry, found, width_enter .., ?_, ?_⟩
  · simp only [enter]
    omega
  · rw [width_enter]
    exact Nat.min_le_left ..

theorem Fits.claim (h : f.Fits m) (room : f.claimed < f.width) : f.claim.Fits m := by
  obtain ⟨entry, found, width, params, -⟩ := h
  refine ⟨entry, found, ?_, Nat.le_succ_of_le params, ?_⟩
  · rw [width_claim, width]
  · rw [width_claim]
    exact room

theorem Fits.put (h : f.Fits m) (slot : Nat) (value : Int32) : (f.put slot value).Fits m := by
  obtain ⟨entry, found, width, params, claimed⟩ := h
  refine ⟨entry, found, ?_, params, ?_⟩
  · rw [width_put, width]
  · rw [width_put]
    exact claimed

theorem Chain.ne_nil {frames : List Frame} (h : Chain m frames) : frames ≠ [] := by
  cases h <;> simp

theorem Chain.replaceTop (h : Chain m (f :: rest)) (script : g.script = f.script)
    (returnIp : g.returnIp = f.returnIp) : Chain m (g :: rest) := by
  cases h with
  | entry none => exact .entry (returnIp.trans none)
  | call back fetched rest => exact .call (returnIp.trans back) (script ▸ fetched) rest

theorem Chain.returns {ip : Nat} (h : Chain m (f :: rest)) (back : f.returnIp = some ip) :
    ip ≤ m.codeSize ∧ Chain m rest := by
  cases h with
  | entry none =>
    rw [back] at none
    cases none
  | call back' fetched rest =>
    rw [back] at back'
    cases back'
    exact ⟨Module.lt_codeSize_of_instr? fetched, rest⟩

end Frame

namespace Thread

structure WellFormed (m : Module) (config : Config) (t : Thread) : Prop where
  ip_le : t.ip ≤ m.codeSize
  stack_le : t.stack.depth ≤ config.runtime.maxStackSize
  depth_le : t.frames.depth ≤ max 1 config.runtime.maxCallDepth
  chain : Frame.Chain m t.frames.items
  fits : ∀ f ∈ t.frames.items, f.Fits m

/-- A thread between its turns: it can run, or it waits at the instruction before its `ip`. -/
def AtRest (m : Module) (t : Thread) : Prop :=
  t.state = .ready ∨ ∃ reason ip, t.state = .blocked reason ∧ t.ip = ip + 1 ∧
    m.instr? ip = some reason.instr ∧
    ∀ piece, reason.instr.piece? = some piece → piece.index < m.pieceCount

variable {m : Module} {config : Config} {t t' : Thread}

theorem WellFormed.one_le_depth (h : t.WellFormed m config) : 1 ≤ t.frames.depth := by
  rw [t.frames.depth_eq]
  exact List.length_pos_iff.mpr h.chain.ne_nil

theorem WellFormed.of_frames (h : t.WellFormed m config) (frames : t'.frames = t.frames)
    (ip : t'.ip ≤ m.codeSize) (stack : t'.stack.depth ≤ config.runtime.maxStackSize) :
    t'.WellFormed m config where
  ip_le := ip
  stack_le := stack
  depth_le := frames ▸ h.depth_le
  chain := frames ▸ h.chain
  fits := frames ▸ h.fits

theorem wellFormed_start {script : ScriptId} {entry : EntryPoint}
    (found : m.script? script = some entry) (id : ThreadId) (args : List Int32) (mask : UInt32) :
    (start id script entry args mask).WellFormed m config where
  ip_le := Nat.le_of_lt (Module.offset_lt found)
  stack_le := Nat.zero_le _
  depth_le := Nat.le_max_left ..
  chain := .entry rfl
  fits := by
    intro f hf
    cases List.mem_singleton.mp hf
    exact Frame.fits_enter found none args

theorem WellFormed.pushFrame (h : t.WellFormed m config) {f : Frame} {place : Nat} {argc : UInt8}
    (depth : t.frames.depth < config.runtime.maxCallDepth) (back : f.returnIp = some (place + 1))
    (fetched : m.instr? place = some (.callScript f.script argc)) (fits : f.Fits m) {ip : Nat}
    (inside : ip ≤ m.codeSize) :
    { t with frames := t.frames.push f, ip }.WellFormed m config where
  ip_le := inside
  stack_le := h.stack_le
  depth_le := Nat.le_trans depth (Nat.le_max_right ..)
  chain := .call back fetched h.chain
  fits := by
    intro g hg
    cases hg with
    | head => exact fits
    | tail _ hg => exact h.fits g hg

theorem WellFormed.popFrame (h : t.WellFormed m config) {f : Frame} {frames : Stack Frame}
    (top : t.frames = frames.push f) {ip : Nat} (back : f.returnIp = some ip) :
    { t with frames, ip }.WellFormed m config := by
  have chain : Frame.Chain m (f :: frames.items) := by simpa [top] using h.chain
  obtain ⟨inside, below⟩ := chain.returns back
  have depth : frames.depth + 1 ≤ max 1 config.runtime.maxCallDepth := by
    simpa [top] using h.depth_le
  have fits : ∀ g ∈ f :: frames.items, g.Fits m := by simpa [top] using h.fits
  exact ⟨inside, h.stack_le, Nat.le_of_succ_le depth, below,
    fun g hg => fits g (List.mem_cons_of_mem _ hg)⟩

theorem WellFormed.mapFrame (h : t.WellFormed m config) {change : Frame → Frame} {f : Frame}
    {rest : List Frame} (top : t.frames.items = f :: rest) (script : (change f).script = f.script)
    (returnIp : (change f).returnIp = f.returnIp) (fits : (change f).Fits m) :
    (t.mapFrame change).WellFormed m config := by
  have items : (t.mapFrame change).frames.items = change f :: rest := by
    simp [Thread.mapFrame, top]
  refine ⟨h.ip_le, h.stack_le, h.depth_le, ?_, ?_⟩
  · rw [items]
    exact (top ▸ h.chain).replaceTop script returnIp
  · rw [items]
    intro g hg
    cases hg with
    | head => exact fits
    | tail _ hg => exact h.fits g (top ▸ List.mem_cons_of_mem _ hg)

end Thread

end UnitScript
