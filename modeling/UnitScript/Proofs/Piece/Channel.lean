import UnitScript.Proofs.Piece.Operation

namespace UnitScript

inductive Channel
  | linear (axis : Axis)
  | angular (axis : Axis)
  | flag (flag : PieceFlag)
  deriving DecidableEq

namespace Channel

abbrev State : Channel → Type
  | .linear _ => Slide
  | .angular _ => Swivel
  | .flag _ => Bool

def rest : (c : Channel) → c.State
  | .linear _ => ({} : Slide)
  | .angular _ => ({} : Swivel)
  | .flag _ => true

def respond : (c : Channel) → PieceRequest → c.State → c.State
  | .linear axis, .moveTo a target speed, s => if a = axis then Slide.moveTo s target speed else s
  | .linear axis, .moveNow a value, s => if a = axis then Slide.moveNow s value else s
  | .linear _, _, s => s
  | .angular axis, .turnTo a target speed, s => if a = axis then Swivel.turnTo s target speed else s
  | .angular axis, .turnNow a angle, s => if a = axis then Swivel.turnNow s angle else s
  | .angular axis, .spin a speed acceleration, s =>
    if a = axis then Swivel.spin s speed acceleration else s
  | .angular axis, .stopSpin a deceleration, s =>
    if a = axis then Swivel.stopSpin s deceleration else s
  | .angular _, _, s => s
  | .flag f, .setFlag g on, s => if g = f then on else s
  | .flag _, _, s => s

def animated : Channel → Bool
  | .linear _ | .angular _ => true
  | .flag _ => false

def advance : (c : Channel) → c.State → c.State
  | .linear _ => Slide.advance
  | .angular _ => Swivel.advance
  | .flag _ => id

end Channel

def PieceRequest.channel : PieceRequest → Channel
  | .moveTo axis _ _ | .moveNow axis _ => .linear axis
  | .turnTo axis _ _ | .turnNow axis _ | .spin axis _ _ | .stopSpin axis _ => .angular axis
  | .setFlag flag _ => .flag flag

theorem Channel.respond_of_ne {c : Channel} {r : PieceRequest} (other : r.channel ≠ c) :
    c.respond r = id := by
  funext s
  cases c <;> cases r <;> simp_all [PieceRequest.channel, respond]

theorem Channel.advance_of_not_animated {c : Channel} (still : c.animated = false) :
    c.advance = id := by
  cases c with
  | linear | angular => cases still
  | flag => rfl

namespace Piece

def read (p : Piece) : (c : Channel) → c.State
  | .linear axis => p.linear.get axis
  | .angular axis => p.angular.get axis
  | .flag .visible => p.visible
  | .flag .shaded => p.shaded
  | .flag .cached => p.cached

variable {p q : Piece}

theorem ext_read (same : ∀ c, p.read c = q.read c) : p = q := by
  obtain ⟨⟨x, y, z⟩, ⟨x', y', z'⟩, visible, shaded, cached⟩ := p
  obtain ⟨⟨u, v, w⟩, ⟨u', v', w'⟩, visible', shaded', cached'⟩ := q
  cases same (.linear .x)
  cases same (.linear .y)
  cases same (.linear .z)
  cases same (.angular .x)
  cases same (.angular .y)
  cases same (.angular .z)
  cases same (.flag .visible)
  cases same (.flag .shaded)
  cases same (.flag .cached)
  rfl

@[simp] theorem read_default (c : Channel) : ({} : Piece).read c = c.rest := by
  cases c with
  | linear axis | angular axis => cases axis <;> rfl
  | flag f => cases f <;> rfl

@[simp] theorem read_perform (p : Piece) (r : PieceRequest) (c : Channel) :
    (p.perform r).read c = c.respond r (p.read c) := by
  cases c with
  | linear axis =>
    cases r with
    | moveTo | moveNow => exact PerAxis.get_modify ..
    | setFlag f on => cases f <;> rfl
    | _ => rfl
  | angular axis =>
    cases r with
    | turnTo | turnNow | spin | stopSpin => exact PerAxis.get_modify ..
    | setFlag f on => cases f <;> rfl
    | _ => rfl
  | flag f =>
    cases r with
    | setFlag g on => cases f <;> cases g <;> rfl
    | _ => cases f <;> rfl

@[simp] theorem read_advance (p : Piece) (c : Channel) :
    p.advance.read c = c.advance (p.read c) := by
  cases c with
  | linear axis | angular axis => exact PerAxis.get_map ..
  | flag f => cases f <;> rfl

end Piece

namespace PieceSet

variable {s t : PieceSet} {place : Nat} {c : Channel}

def read? (s : PieceSet) (place : Nat) (c : Channel) : Option c.State :=
  s.pieces[place]?.map (·.read c)

namespace Operation

/-- Whether an operation can matter to a channel: a request to it, or the passing of a tick. -/
def concerns (place : Nat) (c : Channel) : Operation → Bool
  | .perform piece request => piece.index = place ∧ request.channel = c
  | .advance => c.animated

def on (place : Nat) (c : Channel) : Operation → c.State → c.State
  | .perform piece request, state => if piece.index = place then c.respond request state else state
  | .advance, state => c.advance state

def setting? (place : Nat) (flag : PieceFlag) : Operation → Option Bool
  | .perform piece (.setFlag f on) => if piece.index = place ∧ f = flag then some on else none
  | _ => none

theorem on_of_not_concerns {op : Operation} (other : op.concerns place c = false) :
    op.on place c = id := by
  cases op with
  | perform piece request =>
    funext state
    simp only [concerns, decide_eq_false_iff_not, not_and] at other
    simp only [on, id_eq, ite_eq_right_iff]
    intro here
    rw [Channel.respond_of_ne (other here), id_eq]
  | advance => exact Channel.advance_of_not_animated other

theorem on_flag (op : Operation) (flag : PieceFlag) (state : Bool) :
    op.on place (.flag flag) state = (op.setting? place flag).getD state := by
  cases op with
  | perform piece request =>
    cases request with
    | setFlag f value =>
      by_cases here : piece.index = place <;> by_cases same : f = flag <;>
        simp [on, Channel.respond, setting?, here, same]
    | _ => exact ite_self _
  | advance => rfl

end Operation

theorem ext_read? (same : ∀ place c, s.read? place c = t.read? place c) : s = t := by
  have pieces : s.pieces = t.pieces := by
    apply Array.ext_getElem?
    intro place
    have same := same place
    simp only [read?] at same
    cases found : s.pieces[place]? with
    | none =>
      have missing := same (.flag .visible)
      rw [found, Option.map_none, eq_comm, Option.map_eq_none_iff] at missing
      exact missing.symm
    | some p =>
      replace same c := (same c).symm
      simp only [found, Option.map_some, Option.map_eq_some_iff] at same
      obtain ⟨q, found', -⟩ := same (.flag .visible)
      rw [found', Option.some_inj]
      apply Piece.ext_read
      intro c
      obtain ⟨q', found'', reads⟩ := same c
      cases found'.symm.trans found''
      exact reads.symm
  cases s
  cases t
  cases pieces
  rfl

theorem read?_ofCount (count place : Nat) (c : Channel) :
    (ofCount count).read? place c = if place < count then some c.rest else none := by
  simp only [read?, ofCount, Array.getElem?_replicate]
  split <;> simp

theorem read?_apply (s : PieceSet) (op : Operation) (place : Nat) (c : Channel) :
    (s.apply op).read? place c = (s.read? place c).map (op.on place c) := by
  cases op with
  | perform piece request =>
    simp only [apply, perform, read?, Array.getElem?_modify]
    by_cases here : piece.index = place <;> simp [here, Operation.on, Function.comp_def]
  | advance => simp [apply, advance, read?, Operation.on, Function.comp_def]

theorem read?_after (s : PieceSet) (ops : List Operation) (place : Nat) (c : Channel) :
    (s.after ops).read? place c =
      (s.read? place c).map fun state => ops.foldl (fun state op => op.on place c state) state := by
  induction ops generalizing s with
  | nil => simp [after]
  | cons op rest ih =>
    change ((s.apply op).after rest).read? place c = _
    rw [ih, read?_apply, Option.map_map]
    rfl

theorem foldl_on_filter (ops : List Operation) (place : Nat) (c : Channel) (state : c.State) :
    (ops.filter (·.concerns place c)).foldl (fun state op => op.on place c state) state =
      ops.foldl (fun state op => op.on place c state) state := by
  rw [List.foldl_filter]
  congr 1
  funext state op
  split
  · rfl
  · next other => rw [Operation.on_of_not_concerns (Bool.not_eq_true _ ▸ other), id_eq]

theorem foldl_on_flag (ops : List Operation) (place : Nat) (flag : PieceFlag) (state : Bool) :
    ops.foldl (fun state op => op.on place (.flag flag) state) state =
      (ops.filterMap (·.setting? place flag)).getLast?.getD state := by
  induction ops generalizing state with
  | nil => rfl
  | cons op rest ih =>
    rw [List.foldl_cons, ih, Operation.on_flag]
    cases set : op.setting? place flag with
    | none => simp [set]
    | some value => simp [set, List.getLast?_cons]

theorem size_after (s : PieceSet) (ops : List Operation) : (s.after ops).size = s.size := by
  induction ops generalizing s with
  | nil => rfl
  | cons op rest ih =>
    change ((s.apply op).after rest).size = _
    cases op with
    | perform piece request => rw [ih, apply, size_perform]
    | advance => rw [ih, apply, size_advance]

theorem perform_of_missing {piece : PieceId} (missing : s.size ≤ piece.index)
    (request : PieceRequest) : s.perform piece request = s := by
  apply ext_read?
  intro place c
  change (s.apply (.perform piece request)).read? place c = s.read? place c
  rw [read?_apply]
  by_cases here : piece.index = place
  · have nothing : s.read? place c = none := by
      rw [read?, Array.getElem?_eq_none (here ▸ missing), Option.map_none]
    rw [nothing, Option.map_none]
  · rw [Operation.on_of_not_concerns (by simp [Operation.concerns, here]), Option.map_id_apply]

theorem perform_comm {piece piece' : PieceId} {request request' : PieceRequest}
    (apart : (piece, request.channel) ≠ (piece', request'.channel)) (s : PieceSet) :
    (s.perform piece request).perform piece' request' =
      (s.perform piece' request').perform piece request := by
  apply ext_read?
  intro place c
  change ((s.apply (.perform piece request)).apply (.perform piece' request')).read? place c =
    ((s.apply (.perform piece' request')).apply (.perform piece request)).read? place c
  rw [read?_apply, read?_apply, read?_apply, read?_apply]
  cases first : (Operation.perform piece request).concerns place c with
  | false => rw [Operation.on_of_not_concerns first, Option.map_id_apply, Option.map_id_apply]
  | true =>
    have second : (Operation.perform piece' request').concerns place c = false := by
      simp only [Operation.concerns, decide_eq_true_eq] at first
      simp only [Operation.concerns, decide_eq_false_iff_not]
      rintro ⟨here, same⟩
      exact apart (Prod.ext (PieceId.index_inj.mp (first.1.trans here.symm))
        (first.2.trans same.symm))
    rw [Operation.on_of_not_concerns second, Option.map_id_apply, Option.map_id_apply]

section Slides

variable {piece : PieceId} {axis : Axis}

theorem slide?_apply (s : PieceSet) (op : Operation) :
    (s.apply op).slide? piece axis = (s.slide? piece axis).map (op.on piece.index (.linear axis)) :=
  read?_apply s op piece.index (.linear axis)

theorem slide?_advance (s : PieceSet) :
    s.advance.slide? piece axis = (s.slide? piece axis).map Slide.advance :=
  slide?_apply s .advance

theorem concerns_of_still {op : Operation} (still : op.moves piece axis = false)
    (other : op ≠ .advance) : op.concerns piece.index (.linear axis) = false := by
  cases op with
  | perform p request =>
    cases request with
    | moveTo | moveNow =>
      simpa [Operation.concerns, Operation.moves, PieceRequest.channel, PieceId.index_inj]
        using still
    | _ => simp [Operation.concerns, PieceRequest.channel]
  | advance => exact absurd rfl other

end Slides

end PieceSet

end UnitScript
