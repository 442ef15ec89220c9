import Plotter.CommandLine.Value
import Plotter.Proofs.Color.Channels
import Plotter.Proofs.Command.Characters
import Plotter.Proofs.Program.Execution

namespace Plotter

/-- The text is a name of the color, in letters of either case. -/
def Text.Names (s : Text) (c : Color) : Prop := ∃ n, NamedColor.named? s = some n ∧ n.color = c

namespace NamedColor

variable {s t : Text}

theorem named?_sameWord (h : t.SameWord s) : named? t = named? s := by
  have hword (name : Text) : name.SameWord t ↔ name.SameWord s := ⟨fun hn => hn.trans h, fun hn => hn.trans h.symm⟩
  simp only [named?, hword]

theorem named?_eq_none_of_head? (h : s.head? = some '#') : named? s = none := by
  cases hn : named? s with
  | none => rfl
  | some n =>
      obtain ⟨hmem, hword⟩ := named?_eq_some_iff.mp hn
      have hlower : n.name.lower.head? = some '#' := by
        rw [hword.lower_eq, Text.lower, List.head?_map, h]
        rfl
      rw [Text.lower, List.head?_map, Option.map_eq_some_iff] at hlower
      obtain ⟨c, hc, hsharp⟩ := hlower
      rw [Text.toLower_eq_iff rfl] at hsharp
      exact absurd (hsharp ▸ hc) (head?_name hmem rfl)

end NamedColor

namespace Color

open NamedColor (palette named?)

def code (c : Color) : Text := if c.alpha = 255 then c.hex else c.hex ++ Channel.hex c.alpha

variable {c d : Color}

@[simp] theorem length_hex (c : Color) : c.hex.length = 7 := rfl

@[simp] theorem head?_code (c : Color) : c.code.head? = some '#' := by
  rw [code]
  split <;> rfl

theorem code_injective : Function.Injective code := by
  intro c d h
  rw [code, code] at h
  split at h <;> split at h
  next hc hd => exact eq_of_hex h (hc.trans hd.symm)
  next => cases congrArg List.length h
  next => cases congrArg List.length h
  next =>
    obtain ⟨hhex, halpha⟩ := List.append_inj h (by simp)
    exact eq_of_hex hhex (Channel.hex_injective halpha)

theorem text_cases (c : Color) :
    (∃ n ∈ palette, n.color = c ∧ c.text = n.name) ∨ ((∀ n ∈ palette, n.color ≠ c) ∧ c.text = c.code) := by
  rw [text, name?]
  cases hn : palette.find? fun n => n.color = c with
  | some n =>
      have hc : n.color = c := by simpa using List.find?_some hn
      exact .inl ⟨n, List.mem_of_find?_eq_some hn, hc, rfl⟩
  | none =>
      have hall : ∀ n ∈ palette, n.color ≠ c := by simpa using hn
      exact .inr ⟨hall, rfl⟩

theorem names_text (h : ∃ n ∈ palette, n.color = c) : c.text.Names c := by
  obtain ⟨n, hn, hc, ht⟩ | ⟨hall, -⟩ := c.text_cases
  · exact ⟨n, NamedColor.named?_eq_some_iff.mpr ⟨hn, ht ▸ Text.sameWord_refl _⟩, hc⟩
  · obtain ⟨n, hn, hc⟩ := h
    exact absurd hc (hall n hn)

theorem named?_text_eq_none (h : ∀ n ∈ palette, n.color ≠ c) : named? c.text = none := by
  obtain ⟨n, hn, hc, -⟩ | ⟨-, ht⟩ := c.text_cases
  · exact absurd hc (h n hn)
  · exact NamedColor.named?_eq_none_of_head? (ht ▸ c.head?_code)

theorem text_injective : Function.Injective text := by
  -- No name looks like digits, no two names are one word, and the digits tell all channels.
  intro c d h
  obtain ⟨m, hm, hmc, hc⟩ | ⟨-, hc⟩ := c.text_cases
  · obtain ⟨n, hn, hnd, hd⟩ | ⟨-, hd⟩ := d.text_cases
    · have hname : m.name = n.name := by rw [← hc, h, hd]
      rw [← hmc, ← hnd, NamedColor.palette_unique hm hn (hname ▸ Text.sameWord_refl _)]
    · exact absurd (by rw [← hc, h, hd, head?_code]) (NamedColor.head?_name hm rfl)
  · obtain ⟨n, hn, hnd, hd⟩ | ⟨-, hd⟩ := d.text_cases
    · exact absurd (by rw [← hd, ← h, hc, head?_code]) (NamedColor.head?_name hn rfl)
    · exact code_injective (by rw [← hc, h, hd])

end Color

namespace Command

variable {s : Text} {c : Command}

theorem splitOn_color (s : Text) : ("color ".toList ++ s).splitOn ' ' = Keyword.color.text :: s.splitOn ' ' := by
  have hspace : ' ' ∉ Keyword.color.text := by decide
  exact List.splitOn_append_cons_self_of_not_mem hspace s

theorem exists_means_color {tokens : List Text} {choice : NamedColor}
    (h : Arguments.Mean [.color] tokens (choice, ())) :
    ∃ token, tokens = [token] ∧ ArgumentKind.color.Means token choice := by
  obtain ⟨token, rest, rfl⟩ := List.exists_cons_of_length_eq_add_one h.length_eq
  have hrest : rest = [] := List.length_eq_zero_iff.mp h.2.length_eq
  exact ⟨token, by rw [hrest], h.1⟩

theorem read_color_iff :
    read ("color ".toList ++ s) = .ok c ↔ ∃ n, NamedColor.named? s = some n ∧ c = .color n := by
  -- What follows the keyword is a name. If it had a space in it, it would be no name, and too many arguments.
  rw [read_eq_iff_outcome (splitOn_color s)]
  constructor
  · intro h
    cases h with
    | command hk hm =>
        have hkeyword : c.keyword = .color := Keyword.eq_of_sameWord hk
        cases c with
        | color n =>
            obtain ⟨token, htokens, htoken⟩ := exists_means_color hm
            have hs : s = token := by rw [← Text.join_splitOn ' ' s, htokens, Text.join_singleton]
            exact ⟨n, NamedColor.named?_eq_some_iff.mpr (hs ▸ htoken), rfl⟩
        | moveTo | drawTo | clear | rectangle | circle | triangle | reset | fill => cases hkeyword
  · rintro ⟨n, hn, rfl⟩
    have hmeans : ArgumentKind.color.Means s n := NamedColor.named?_eq_some_iff.mp hn
    have hspace : ' ' ∉ s := hmeans.graphic.not_mem_of_isGraphic_eq_false rfl
    rw [List.splitOn_eq_singleton hspace]
    exact .command (Text.sameWord_refl _) ⟨hmeans, trivial⟩

end Command

namespace Drawing

def SetsColor (d : Drawing) (line : Text) (c : Color) : Prop := ∃ next, d.enter line = .ok next ∧ next.pen.color = c

theorem setsColor_iff (d : Drawing) {s : Text} {c : Color} : d.SetsColor ("color ".toList ++ s) c ↔ s.Names c := by
  constructor
  · rintro ⟨next, hnext, rfl⟩
    cases hr : Command.read ("color ".toList ++ s) with
    | error e =>
        rw [enter_error hr] at hnext
        cases hnext
    | ok command =>
        obtain ⟨n, hn, rfl⟩ := Command.read_color_iff.mp hr
        rw [enter_ok hr] at hnext
        cases hnext
        exact ⟨n, hn, rfl⟩
  · rintro ⟨n, hn, rfl⟩
    exact ⟨_, enter_ok (Command.read_color_iff.mpr ⟨n, hn, rfl⟩), rfl⟩

end Drawing

namespace Value

theorem readColor_eq_ok_iff {s : Text} {c : Color} : readColor s = .ok c ↔ s.Names c := by
  rw [readColor, Text.Names]
  cases NamedColor.named? s with
  | none => simp
  | some n => simp

end Value

namespace Color

open NamedColor (palette named?)

/-- No two colors have one text, and the text of a color is a name of it just if there is one in the palette. What a
text names is the one entry of the palette that it is up to the case of letters. The keyword for colors takes it for
that color, and for no other, in any drawing, and so does an option on the command line. -/
theorem names_agree :
    Function.Injective text ∧
      (∀ c : Color, ((∃ n ∈ palette, n.color = c) → c.text.Names c) ∧
        ((∀ n ∈ palette, n.color ≠ c) → named? c.text = none)) ∧
      ∀ s : Text,
        (∀ n, named? s = some n ↔ n ∈ palette ∧ n.name.SameWord s ∧ ∀ m ∈ palette, m.name.SameWord s → m = n) ∧
          (∀ t, t.SameWord s → named? t = named? s) ∧
          (∀ c, s.Names c → c.text.Names c) ∧
          ∀ (d : Drawing) (c : Color),
            (d.SetsColor ("color ".toList ++ s) c ↔ Value.readColor s = .ok c) ∧
              (Value.readColor s = .ok c ↔ s.Names c) := by
  refine ⟨text_injective, fun c => ⟨names_text, named?_text_eq_none⟩, fun s => ⟨?_, ?_, ?_, ?_⟩⟩
  · intro n
    rw [NamedColor.named?_eq_some_iff]
    constructor
    · rintro ⟨hn, hs⟩
      exact ⟨hn, hs, fun m hm hms => NamedColor.palette_unique hm hn (hms.trans hs.symm)⟩
    · rintro ⟨hn, hs, -⟩
      exact ⟨hn, hs⟩
  · exact fun t => NamedColor.named?_sameWord
  · rintro c ⟨n, hn, hc⟩
    exact names_text ⟨n, (NamedColor.named?_eq_some_iff.mp hn).1, hc⟩
  · exact fun d c => ⟨d.setsColor_iff.trans Value.readColor_eq_ok_iff.symm, Value.readColor_eq_ok_iff⟩

example : named? "CYAN".toList = some ⟨"Cyan".toList, ⟨0, 255, 255, 255⟩⟩ ∧
    text ⟨0, 255, 255, 255⟩ = "Aqua".toList := ⟨rfl, rfl⟩

end Color

end Plotter
