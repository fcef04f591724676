set_option autoImplicit false

namespace SpokenArithmetic

variable {E A B : Type}

theorem bind_eq_ok {first : Except E A} {next : A -> Except E B} {result : B} :
    first >>= next = .ok result ↔ exists value, first = .ok value ∧ next value = .ok result := by
  cases first with
  | error fault => simp [Bind.bind, Except.bind]
  | ok value => simp [Bind.bind, Except.bind]

theorem map_eq_ok {change : A -> B} {first : Except E A} {result : B} :
    change <$> first = .ok result ↔ exists value, first = .ok value ∧ change value = result := by
  cases first with
  | error fault => simp [Functor.map, Except.map]
  | ok value => simp [Functor.map, Except.map]

@[simp] theorem ok_bind (value : A) (next : A -> Except E B) :
    (Except.ok value : Except E A) >>= next = next value := rfl

@[simp] theorem error_bind (fault : E) (next : A -> Except E B) :
    (Except.error fault : Except E A) >>= next = .error fault := rfl

end SpokenArithmetic
