import GalacticWinds.Scalar

namespace GalacticWinds

@[ext] structure Vec (α : Type) where
  x : α
  y : α
  z : α
  deriving DecidableEq

namespace Vec

variable {α β γ : Type}

def map (f : α → β) (v : Vec α) : Vec β :=
  ⟨f v.x, f v.y, f v.z⟩

def zipWith (f : α → β → γ) (v : Vec α) (w : Vec β) : Vec γ :=
  ⟨f v.x w.x, f v.y w.y, f v.z w.z⟩

def foldl (f : β → α → β) (b : β) (v : Vec α) : β :=
  f (f (f b v.x) v.y) v.z

def all (v : Vec Bool) : Bool :=
  v.x && v.y && v.z

variable [Scalar α]

instance instZero : Zero (Vec α) := ⟨⟨0, 0, 0⟩⟩
instance instAdd : Add (Vec α) := ⟨zipWith (· + ·)⟩
instance instSub : Sub (Vec α) := ⟨zipWith (· - ·)⟩
instance instHMul : HMul α (Vec α) (Vec α) := ⟨fun k v => v.map (k * ·)⟩

@[simp] theorem zero_x : (0 : Vec α).x = 0 := rfl
@[simp] theorem zero_y : (0 : Vec α).y = 0 := rfl
@[simp] theorem zero_z : (0 : Vec α).z = 0 := rfl
@[simp] theorem add_x (v w : Vec α) : (v + w).x = v.x + w.x := rfl
@[simp] theorem add_y (v w : Vec α) : (v + w).y = v.y + w.y := rfl
@[simp] theorem add_z (v w : Vec α) : (v + w).z = v.z + w.z := rfl
@[simp] theorem sub_x (v w : Vec α) : (v - w).x = v.x - w.x := rfl
@[simp] theorem sub_y (v w : Vec α) : (v - w).y = v.y - w.y := rfl
@[simp] theorem sub_z (v w : Vec α) : (v - w).z = v.z - w.z := rfl
@[simp] theorem smul_x (k : α) (v : Vec α) : (k * v).x = k * v.x := rfl
@[simp] theorem smul_y (k : α) (v : Vec α) : (k * v).y = k * v.y := rfl
@[simp] theorem smul_z (k : α) (v : Vec α) : (k * v).z = k * v.z := rfl

def normSq (v : Vec α) : α :=
  Scalar.sq v.x + Scalar.sq v.y + Scalar.sq v.z

def norm (v : Vec α) : α :=
  Scalar.sqrt v.normSq

end Vec

end GalacticWinds
