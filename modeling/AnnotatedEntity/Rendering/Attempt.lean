/-
Work that logs messages on the way and may fail. What was logged before a failure stays logged.
-/
import AnnotatedEntity.Converter

namespace AnnotatedEntity

structure Attempt (α : Type) where
  log : List String
  result : Except ConvertError α

namespace Attempt

variable {α β : Type}

def done (a : α) : Attempt α := ⟨[], .ok a⟩

/-- The second part runs only on the result of the first. -/
def andThen (x : Attempt α) (f : α → Attempt β) : Attempt β :=
  match x.result with
  | .ok a => ⟨x.log ++ (f a).log, (f a).result⟩
  | .error e => ⟨x.log, .error e⟩

instance : Monad Attempt where
  pure := done
  bind := andThen

/-- Logs a message. -/
def say (message : String) : Attempt Unit := ⟨[message], .ok ()⟩

/-- Work that logs nothing. -/
def ofExcept (result : Except ConvertError α) : Attempt α := ⟨[], result⟩

/-! ## What follows on a part -/

theorem bind_of_ok {x : Attempt α} {a : α} (f : α → Attempt β) (h : x.result = .ok a) :
    x >>= f = ⟨x.log ++ (f a).log, (f a).result⟩ := by
  show x.andThen f = _
  rw [andThen, h]

theorem bind_of_error {x : Attempt α} {e : ConvertError} (f : α → Attempt β)
    (h : x.result = .error e) : x >>= f = ⟨x.log, .error e⟩ := by
  show x.andThen f = _
  rw [andThen, h]

@[simp] theorem pure_eq_done (a : α) : (pure a : Attempt α) = done a := rfl

@[simp] theorem done_bind (a : α) (f : α → Attempt β) : done a >>= f = f a := rfl

@[simp] theorem ofExcept_ok_bind (a : α) (f : α → Attempt β) :
    ofExcept (.ok a) >>= f = f a := rfl

@[simp] theorem ofExcept_error_bind (e : ConvertError) (f : α → Attempt β) :
    ofExcept (.error e) >>= f = ⟨[], .error e⟩ := rfl

@[simp] theorem say_bind (message : String) (f : Unit → Attempt β) :
    say message >>= f = ⟨message :: (f ()).log, (f ()).result⟩ := rfl

end Attempt

end AnnotatedEntity
