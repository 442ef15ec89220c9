import Plotter.Proofs.Command.Characters
import Plotter.Proofs.Number.Printing

namespace Plotter

namespace ArgumentKind

/-- A finite number, a color just as the palette has it, or any position of a switch. -/
def Expressible : (kind : ArgumentKind) → kind.Value → Prop
  | number, n => n.isFinite
  | color, choice => choice ∈ NamedColor.palette
  | switch, _ => True

variable {kind : ArgumentKind} {token : Text} {value : kind.Value}

theorem Means.expressible (h : kind.Means token value) : kind.Expressible value := by
  cases kind with
  | number => exact h.2
  | color => exact h.1
  | switch => trivial

theorem means_token (h : kind.Expressible value) : kind.Means (kind.token value) value := by
  cases kind with
  | number => exact ⟨Number.read?_text value, h⟩
  | color => exact ⟨h, Text.sameWord_refl _⟩
  | switch => exact Text.sameWord_refl _

end ArgumentKind

namespace Arguments

def Expressible : (kinds : List ArgumentKind) → Arguments kinds → Prop
  | [], () => True
  | kind :: kinds, (value, values) => kind.Expressible value ∧ Expressible kinds values

theorem Mean.expressible {kinds : List ArgumentKind} {ts : List Text} {values : Arguments kinds}
    (h : Mean kinds ts values) : Expressible kinds values := by
  induction kinds generalizing ts with
  | nil => trivial
  | cons kind kinds ih =>
      obtain ⟨t, ts, rfl⟩ := List.exists_cons_of_length_eq_add_one h.length_eq
      exact ⟨h.1.expressible, ih h.2⟩

theorem mean_tokens {kinds : List ArgumentKind} {values : Arguments kinds} (h : Expressible kinds values) :
    Mean kinds (tokens kinds values) values := by
  induction kinds with
  | nil => trivial
  | cons kind kinds ih => exact ⟨ArgumentKind.means_token h.1, ih h.2⟩

end Arguments

namespace Command

def Expressible (c : Command) : Prop := Arguments.Expressible _ c.arguments

variable {c : Command} {line : Text}

theorem expressible_of_read (h : read line = .ok c) : c.Expressible := by
  obtain ⟨word, ts, hs⟩ := List.exists_cons_of_ne_nil (List.splitOn_ne_nil ' ' line)
  have ho := (read_eq_iff_outcome hs).mp h
  cases ho with
  | command hk hm => exact hm.expressible

theorem splitOn_text (h : c.Expressible) : c.text.splitOn ' ' = c.tokens := by
  have hgraphic : ∀ t ∈ c.tokens, t.Graphic := by
    intro t ht
    rcases List.mem_cons.mp ht with rfl | ht
    · exact Keyword.graphic_text _
    · exact (Arguments.mean_tokens h).graphic t ht
  rw [text, Text.splitOn_join (fun t ht => (hgraphic t ht).not_mem_of_isGraphic_eq_false rfl) (by simp [tokens])]

theorem read_text (h : c.Expressible) : read c.text = .ok c :=
  read_of_outcome (splitOn_text h) (.command (Text.sameWord_refl _) (Arguments.mean_tokens h))

/-- The canonical line of a command is read as the same command if and only if the command is
expressible. All that is read from lines is, so a canonical line is its own canonical line. A finite number
is in plain decimal, without an exponent, and unless it is zero, by the one shortest decimal that is read
as it. -/
theorem canonical_line :
    (∀ c, read c.text = .ok c ↔ c.Expressible) ∧
      (∀ line c, read line = .ok c → c.Expressible ∧ (read c.text).map text = .ok c.text) ∧
      ∀ negative m, let n := Number.finite negative m
        Number.read? n.text = some n ∧
          (∀ d ∈ n.text, d.isDigit ∨ d = '.' ∨ d = '-') ∧
          (m ≠ .zero → ∃ d, (∀ e, Decimal.IsShortest m e ↔ e = d) ∧ n.text = Number.sign negative ++ d.text) := by
  refine ⟨fun c => ⟨expressible_of_read, read_text⟩, ?_, ?_⟩
  · intro line c h
    have hc : c.Expressible := expressible_of_read h
    exact ⟨hc, by rw [read_text hc]; rfl⟩
  · intro negative m n
    exact ⟨Number.read?_text n, Number.plain_text rfl, fun hm => ⟨_, fun _ => Decimal.isShortest_iff hm, rfl⟩⟩

end Command

end Plotter
