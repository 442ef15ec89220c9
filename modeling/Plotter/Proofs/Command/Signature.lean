import Plotter.Command
import Plotter.Proofs.Color.Names

namespace Plotter

namespace ArgumentKind

/-- The token is a way to write the value. -/
def Means : (kind : ArgumentKind) → Text → kind.Value → Prop
  | number, token, n => Number.read? token = some n ∧ n.isFinite
  | color, token, n => n ∈ NamedColor.palette ∧ n.name.SameWord token
  | switch, token, on => (Switch.text on).SameWord token

def Fits (kind : ArgumentKind) (token : Text) : Prop := ∃ value, kind.Means token value

def misfit : ArgumentKind → Text → CommandError
  | number, token => .argumentFormat token number
  | color, token => .unknownColor token
  | switch, token => .argumentFormat token switch

theorem misfit_ne_arity (kind : ArgumentKind) (token : Text) (k : Keyword) (n : Nat) :
    kind.misfit token ≠ .arity k n := by
  cases kind <;> simp [misfit]

variable {kind : ArgumentKind} {token : Text} {value : kind.Value}

theorem Means.read (h : kind.Means token value) : kind.read token = .ok value := by
  cases kind with
  | number =>
      obtain ⟨hr, hf⟩ := h
      simp [ArgumentKind.read, readNumber, hr, hf]
  | color => simp [ArgumentKind.read, readColor, NamedColor.named?_eq_some_iff.mpr h]
  | switch =>
      have hne : ¬ (Switch.text true).SameWord (Switch.text false) := by decide
      have hs : (Switch.text value).SameWord token := h
      cases value with
      | true => simp [ArgumentKind.read, readSwitch, hs]
      | false =>
          have ht : ¬ (Switch.text true).SameWord token := fun ht => hne (ht.trans hs.symm)
          simp [ArgumentKind.read, readSwitch, hs, ht]

theorem read_misfit (h : ¬ kind.Fits token) : kind.read token = .error (kind.misfit token) := by
  cases kind with
  | number =>
      simp only [ArgumentKind.read, readNumber]
      cases hr : Number.read? token with
      | none => rfl
      | some n =>
          have hf : n.isFinite = false := by
            cases hf : n.isFinite with
            | false => rfl
            | true => exact absurd ⟨n, hr, hf⟩ h
          simp [hf, misfit]
  | color =>
      simp only [ArgumentKind.read, readColor]
      cases hn : NamedColor.named? token with
      | none => rfl
      | some n => exact absurd ⟨n, NamedColor.named?_eq_some_iff.mp hn⟩ h
  | switch =>
      have ht (on : Bool) : ¬ (Switch.text on).SameWord token := fun hs => h ⟨on, hs⟩
      simp [ArgumentKind.read, readSwitch, ht, misfit]

end ArgumentKind

namespace Taking

variable {α β : Type} {x : Taking α} {f : α → Taking β} {tokens left : List Text} {a : α} {e : CommandError}

theorem bind_ok (h : x tokens = .ok (a, left)) : (x >>= f) tokens = f a left := by
  simp [bind, StateT.bind, h, Except.bind]

theorem bind_error (h : x tokens = .error e) : (x >>= f) tokens = .error e := by
  simp [bind, StateT.bind, h, Except.bind]

@[simp] theorem value_cons (keyword : Keyword) (kind : ArgumentKind) (token : Text) (tokens : List Text) :
    value keyword kind (token :: tokens) = (kind.read token).map fun v => (v, tokens) := by
  have h : Taking.token keyword (token :: tokens) = .ok (token, tokens) := rfl
  rw [value, bind_ok h]
  cases hr : kind.read token <;> rfl

end Taking

namespace Arguments

/-- The tokens are a way to write the values, one token for each. -/
def Mean : (kinds : List ArgumentKind) → List Text → Arguments kinds → Prop
  | [], [], () => True
  | kind :: kinds, token :: tokens, (value, values) => kind.Means token value ∧ Mean kinds tokens values
  | [], _ :: _, () => False
  | _ :: _, [], _ => False

/-- The token at place `i`, for an argument of the given kind, is the first that does not fit. -/
structure Misfit (kinds : List ArgumentKind) (tokens : List Text) (i : Nat) (kind : ArgumentKind) (token : Text) :
    Prop where
  kind_at : kinds[i]? = some kind
  token_at : tokens[i]? = some token
  unfit : ¬ kind.Fits token
  fit_before : ∀ j < i, ∀ k t, kinds[j]? = some k → tokens[j]? = some t → k.Fits t

def take (keyword : Keyword) : (kinds : List ArgumentKind) → Taking (Arguments kinds)
  | [] => return ()
  | kind :: kinds => do return (← Taking.value keyword kind, ← take keyword kinds)

variable {keyword : Keyword} {kind : ArgumentKind} {kinds : List ArgumentKind} {token : Text}
  {tokens : List Text}

theorem Mean.length_eq {values : Arguments kinds} (h : Mean kinds tokens values) :
    tokens.length = kinds.length := by
  induction kinds generalizing tokens with
  | nil =>
      cases tokens with
      | nil => rfl
      | cons token tokens => exact h.elim
  | cons kind kinds ih =>
      cases tokens with
      | nil => exact h.elim
      | cons token tokens => simp [ih h.2]

theorem Misfit.succ {i : Nat} {k : ArgumentKind} {t : Text} (hf : kind.Fits token)
    (h : Misfit kinds tokens i k t) :
    Misfit (kind :: kinds) (token :: tokens) (i + 1) k t := by
  refine ⟨h.kind_at, h.token_at, h.unfit, ?_⟩
  intro j hj k t hk ht
  cases j with
  | zero =>
      cases hk
      cases ht
      exact hf
  | succ j => exact h.fit_before j (by omega) k t hk ht

theorem mean_or_misfit (h : tokens.length = kinds.length) :
    (∃ values, Mean kinds tokens values) ∨ ∃ i kind token, Misfit kinds tokens i kind token := by
  induction kinds generalizing tokens with
  | nil =>
      rw [List.length_eq_zero_iff.mp h]
      exact .inl ⟨(), trivial⟩
  | cons kind kinds ih =>
      obtain ⟨token, tokens, rfl⟩ := List.exists_cons_of_length_eq_add_one h
      by_cases hf : kind.Fits token
      · obtain ⟨values, hv⟩ | ⟨i, k, t, hm⟩ := ih (by simpa using h)
        · obtain ⟨value, hm⟩ := hf
          exact .inl ⟨(value, values), hm, hv⟩
        · exact .inr ⟨i + 1, k, t, hm.succ hf⟩
      · exact .inr ⟨0, kind, token, rfl, rfl, hf, by simp⟩

theorem take_cons_ok {value : kind.Value} (h : kind.Means token value) :
    take keyword (kind :: kinds) (token :: tokens) =
      (take keyword kinds tokens).map fun p => ((value, p.1), p.2) := by
  have hv : Taking.value keyword kind (token :: tokens) = .ok (value, tokens) := by
    rw [Taking.value_cons, h.read]
    rfl
  rw [take, Taking.bind_ok hv]
  cases ht : take keyword kinds tokens with
  | error e => rw [Taking.bind_error ht]; rfl
  | ok p => rw [Taking.bind_ok ht]; rfl

theorem take_of_mean {values : Arguments kinds} (h : Mean kinds tokens values) :
    take keyword kinds tokens = .ok (values, []) := by
  induction kinds generalizing tokens with
  | nil => rw [List.length_eq_zero_iff.mp h.length_eq]; rfl
  | cons kind kinds ih =>
      obtain ⟨token, tokens, rfl⟩ := List.exists_cons_of_length_eq_add_one h.length_eq
      rw [take_cons_ok h.1, ih h.2]
      rfl

theorem take_of_misfit {i : Nat} {k : ArgumentKind} {t : Text} (h : Misfit kinds tokens i k t) :
    take keyword kinds tokens = .error (k.misfit t) := by
  induction kinds generalizing tokens i with
  | nil => simpa using h.kind_at
  | cons kind kinds ih =>
      cases tokens with
      | nil => simpa using h.token_at
      | cons token tokens =>
          cases i with
          | zero =>
              obtain ⟨hk, ht, hf, -⟩ := h
              cases hk
              cases ht
              rw [take, Taking.bind_error (by rw [Taking.value_cons, ArgumentKind.read_misfit hf]; rfl)]
          | succ i =>
              obtain ⟨value, hv⟩ := h.fit_before 0 (by omega) kind token rfl rfl
              have hm : Misfit kinds tokens i k t :=
                ⟨h.kind_at, h.token_at, h.unfit, fun j hj => h.fit_before (j + 1) (by omega)⟩
              rw [take_cons_ok hv, ih hm]
              rfl

end Arguments

namespace Command

def ofArguments : (k : Keyword) → Arguments k.signature → Command
  | .moveTo, (x, y, ()) => moveTo ⟨x, y⟩
  | .drawTo, (x, y, ()) => drawTo ⟨x, y⟩
  | .clear, () => clear
  | .rectangle, (width, height, ()) => rectangle width height
  | .circle, (radius, ()) => circle radius
  | .triangle, (x₁, y₁, x₂, y₂, x₃, y₃, ()) => triangle ⟨x₁, y₁⟩ ⟨x₂, y₂⟩ ⟨x₃, y₃⟩
  | .color, (choice, ()) => color choice
  | .reset, () => reset
  | .fill, (on, ()) => fill on

@[simp] theorem ofArguments_arguments (c : Command) : ofArguments c.keyword c.arguments = c := by cases c <;> rfl

theorem exists_mean {k : Keyword} {tokens : List Text} {values : Arguments k.signature}
    (h : Arguments.Mean k.signature tokens values) :
    ∃ c : Command, c.keyword = k ∧ Arguments.Mean c.keyword.signature tokens c.arguments := by
  cases k <;> exact ⟨ofArguments _ values, rfl, h⟩

end Command

namespace Taking

open Arguments (take)

/-- What each keyword takes by itself is what its signature lists. -/
theorem command_eq_take (k : Keyword) : command k = Command.ofArguments k <$> take k k.signature := by
  -- The types on the right depend on the signature, which is written out before anything is unfolded.
  cases k with
  | moveTo =>
      change _ = (fun a : Arguments [.number, .number] => Command.moveTo ⟨a.1, a.2.1⟩) <$> take .moveTo _
      simp [command, point, number, take]
  | drawTo =>
      change _ = (fun a : Arguments [.number, .number] => Command.drawTo ⟨a.1, a.2.1⟩) <$> take .drawTo _
      simp [command, point, number, take]
  | clear =>
      change _ = (fun _ : Arguments [] => Command.clear) <$> take .clear _
      simp [command, take]
  | rectangle =>
      change _ = (fun a : Arguments [.number, .number] => Command.rectangle a.1 a.2.1) <$> take .rectangle _
      simp [command, number, take]
  | circle =>
      change _ = (fun a : Arguments [.number] => Command.circle a.1) <$> take .circle _
      simp [command, number, take]
  | triangle =>
      change _ = (fun a : Arguments [.number, .number, .number, .number, .number, .number] =>
        Command.triangle ⟨a.1, a.2.1⟩ ⟨a.2.2.1, a.2.2.2.1⟩ ⟨a.2.2.2.2.1, a.2.2.2.2.2.1⟩) <$> take .triangle _
      simp [command, point, number, take]
  | color =>
      change _ = (fun a : Arguments [.color] => Command.color a.1) <$> take .color _
      simp [command, take]
  | reset =>
      change _ = (fun _ : Arguments [] => Command.reset) <$> take .reset _
      simp [command, take]
  | fill =>
      change _ = (fun a : Arguments [.switch] => Command.fill a.1) <$> take .fill _
      simp [command, take]

variable {k : Keyword} {tokens : List Text}

theorem command_of_mean {c : Command} (h : Arguments.Mean c.keyword.signature tokens c.arguments) :
    command c.keyword tokens = .ok (c, []) := by
  rw [command_eq_take, map_eq_pure_bind, bind_ok (Arguments.take_of_mean h), Command.ofArguments_arguments]
  rfl

theorem command_of_misfit {i : Nat} {kind : ArgumentKind} {token : Text}
    (h : Arguments.Misfit k.signature tokens i kind token) : command k tokens = .error (kind.misfit token) := by
  rw [command_eq_take, map_eq_pure_bind, bind_error (Arguments.take_of_misfit h)]

end Taking

end Plotter
