import Mathlib.Data.List.Basic

/-! Steps of an object that emit signals while they run. A step takes the state and returns the new state with
the signals emitted, in order; `andThen` runs one step after another. -/

namespace Emit

variable {σ ο : Type*}

def quietly (s : σ) : σ × List ο := (s, [])

def emit (s : σ) (signal : ο) : σ × List ο := (s, [signal])

def andThen (x : σ × List ο) (f : σ → σ × List ο) : σ × List ο := ((f x.1).1, x.2 ++ (f x.1).2)

@[simp] theorem quietly_fst (s : σ) : (quietly s : σ × List ο).1 = s := rfl

@[simp] theorem quietly_snd (s : σ) : (quietly s : σ × List ο).2 = [] := rfl

@[simp] theorem emit_fst (s : σ) (signal : ο) : (emit s signal).1 = s := rfl

@[simp] theorem emit_snd (s : σ) (signal : ο) : (emit s signal).2 = [signal] := rfl

@[simp] theorem andThen_fst (x : σ × List ο) (f : σ → σ × List ο) : (andThen x f).1 = (f x.1).1 := rfl

@[simp] theorem andThen_snd (x : σ × List ο) (f : σ → σ × List ο) : (andThen x f).2 = x.2 ++ (f x.1).2 := rfl

end Emit
