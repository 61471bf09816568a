import FixtureLab.Yaml.Printer
import FixtureLab.Yaml.Source

/-!
This module contains where the characters of a text stand: the place behind a text, and the effect
of indentation. A text of printable characters is read as it is.
-/

namespace FixtureLab
namespace Yaml

theorem isPrintable_iff {c : Char} :
    isPrintable c = true ↔
      c.toNat = 0x0A ∨ (0x20 ≤ c.toNat ∧ c.toNat ≤ 0x7E) ∨ (0xA0 ≤ c.toNat ∧ c.toNat ≤ 0xD7FF)
        ∨ (0xE000 ≤ c.toNat ∧ c.toNat ≤ 0xFFFD ∧ c.toNat ≠ 0xFEFF) ∨ 0x10000 ≤ c.toNat := by
  simp [isPrintable, or_assoc, and_assoc]

theorem isBlank_of_printable {c : Char} (h : isPrintable c = true) :
    isBlank c = decide (c = ' ') := by
  have htab : c ≠ '\t' := by
    rintro rfl
    simp [isPrintable] at h
  simp [isBlank, htab]

theorem isAllowed_of_printable {c : Char} (h : isPrintable c = true) : isAllowed c = true := by
  simp [isAllowed, h]

def Printable (cs : List Char) : Prop := ∀ c ∈ cs, isPrintable c = true

namespace Printable

variable {c : Char} {cs ds : List Char}

instance : Decidable (Printable cs) :=
  decidable_of_iff (cs.all isPrintable = true) List.all_eq_true

theorem cons_iff : Printable (c :: cs) ↔ isPrintable c = true ∧ Printable cs :=
  List.forall_mem_cons

theorem append_iff : Printable (cs ++ ds) ↔ Printable cs ∧ Printable ds := List.forall_mem_append

theorem pad (n : Nat) : Printable (pad n) := by
  intro c hc
  rw [List.eq_of_mem_replicate hc]
  rfl

end Printable

def startsToken (c : Char) : Bool := !isBlank c && !isBreak c && c != '#'

theorem startsToken_iff {c : Char} :
    startsToken c = true ↔ isBlank c = false ∧ isBreak c = false ∧ c ≠ '#' := by
  simp [startsToken, and_assoc]

@[simp]
theorem pad_zero : pad 0 = [] := rfl

@[simp]
theorem pad_succ (n : Nat) : pad (n + 1) = ' ' :: pad n := List.replicate_succ

namespace Source

def lineAfter (line : Nat) : List Char → Nat
  | [] => line
  | c :: rest => lineAfter (if isBreak c then line + 1 else line) rest

def columnAfter (column : Nat) : List Char → Nat
  | [] => column
  | c :: rest => columnAfter (if isBreak c then 0 else column + 1) rest

section

variable {line column : Nat}

@[simp]
theorem place_nil : place line column [] = [] := rfl

theorem place_cons (c : Char) (rest : List Char) :
    place line column (c :: rest)
      = ⟨c, line, column⟩
        :: place (if isBreak c then line + 1 else line) (if isBreak c then 0 else column + 1)
          rest := by
  rw [place]
  split <;> rfl

theorem place_of_not_isBreak {c : Char} (h : isBreak c = false) (rest : List Char) :
    place line column (c :: rest) = ⟨c, line, column⟩ :: place line (column + 1) rest := by
  simp [place, h]

theorem place_of_isBreak {c : Char} (h : isBreak c = true) (rest : List Char) :
    place line column (c :: rest) = ⟨c, line, column⟩ :: place (line + 1) 0 rest := by
  simp [place, h]

@[simp]
theorem place_space (rest : List Char) :
    place line column (' ' :: rest) = ⟨' ', line, column⟩ :: place line (column + 1) rest := rfl

@[simp]
theorem place_newline (rest : List Char) :
    place line column ('\n' :: rest) = ⟨'\n', line, column⟩ :: place (line + 1) 0 rest := rfl

@[simp]
theorem length_place (cs : List Char) : (place line column cs).length = cs.length := by
  induction cs generalizing line column with
  | nil => rfl
  | cons c rest ih => simp only [place_cons, List.length_cons, ih]

theorem lineAfter_append (xs ys : List Char) :
    lineAfter line (xs ++ ys) = lineAfter (lineAfter line xs) ys := by
  induction xs generalizing line with
  | nil => rfl
  | cons c rest ih => simp only [List.cons_append, lineAfter, ih]

theorem columnAfter_append (xs ys : List Char) :
    columnAfter column (xs ++ ys) = columnAfter (columnAfter column xs) ys := by
  induction xs generalizing column with
  | nil => rfl
  | cons c rest ih => simp only [List.cons_append, columnAfter, ih]

theorem le_lineAfter (cs : List Char) : line ≤ lineAfter line cs := by
  induction cs generalizing line with
  | nil => exact Nat.le_refl _
  | cons c rest ih => exact Nat.le_trans (by split <;> omega) ih

theorem lineAfter_of_noBreak {cs : List Char} (h : Text.hasBreak cs = false) :
    lineAfter line cs = line := by
  induction cs with
  | nil => rfl
  | cons c rest ih =>
    simp only [Text.hasBreak, List.any_cons, Bool.or_eq_false_iff] at h
    simp only [lineAfter, h.1]
    exact ih h.2

theorem columnAfter_of_noBreak {cs : List Char} (h : Text.hasBreak cs = false) :
    columnAfter column cs = column + cs.length := by
  induction cs generalizing column with
  | nil => rfl
  | cons c rest ih =>
    simp only [Text.hasBreak, List.any_cons, Bool.or_eq_false_iff] at h
    simp only [columnAfter, h.1, List.length_cons, Bool.false_eq_true, if_false]
    rw [ih h.2]
    omega

theorem hasBreak_pad (n : Nat) : Text.hasBreak (pad n) = false := by
  induction n with
  | zero => rfl
  | succ n ih => simpa [Text.hasBreak, isBreak] using ih

@[simp]
theorem lineAfter_pad (n : Nat) : lineAfter line (pad n) = line :=
  lineAfter_of_noBreak (hasBreak_pad n)

@[simp]
theorem columnAfter_pad (n : Nat) : columnAfter column (pad n) = column + n := by
  rw [columnAfter_of_noBreak (hasBreak_pad n), pad, List.length_replicate]

end

theorem normalize_of_printable {cs : List Char} (h : Printable cs) :
    normalize cs = cs := by
  induction cs with
  | nil => rfl
  | cons c rest ih =>
    have hc := isPrintable_iff.1 (h c List.mem_cons_self)
    have hreturn : c ≠ '\r' := by
      rintro rfl
      simp at hc
    have hnext : c.toNat ≠ 0x85 := by omega
    have hrest := ih fun d hd => h d (List.mem_cons_of_mem _ hd)
    rw [normalize, hrest]
    . simp [hreturn, hnext]
    . intro _ hcr
      exact absurd hcr hreturn

theorem ofChars?_of_printable {cs : List Char} (h : Printable cs) :
    ofChars? cs = some (place 0 0 cs) := by
  have hallowed : cs.all isAllowed = true :=
    List.all_eq_true.2 fun c hc => isAllowed_of_printable (h c hc)
  simp [ofChars?, hallowed, normalize_of_printable h]

@[simp]
theorem map_char_place {line column : Nat} (cs : List Char) :
    (place line column cs).map (·.char) = cs := by
  induction cs generalizing line column with
  | nil => rfl
  | cons c rest ih => simp only [place_cons, List.map_cons, ih]

theorem chars_of_atMarker {mark : Char} {s : Source} (h : atMarker mark s = true) :
    ∃ more, s.map (·.char) = mark :: mark :: mark :: more := by
  match s with
  | [] | [_] | [_, _] => cases h
  | _ :: _ :: _ :: rest =>
    simp only [atMarker, Bool.and_eq_true, decide_eq_true_eq] at h
    obtain ⟨⟨⟨⟨-, ha⟩, hb⟩, hc⟩, -⟩ := h
    exact ⟨rest.map (·.char), by simp [ha, hb, hc]⟩

theorem atMarker_of_pos {mark : Char} {p : Placed} {s : Source} (h : 0 < p.column) :
    atMarker mark (p :: s) = false := by
  match s with
  | [] | [_] => rfl
  | _ :: _ :: _ => simp [atMarker, Nat.ne_of_gt h]

theorem atDocumentEdge_of_pos {p : Placed} {s : Source} (h : 0 < p.column) :
    atDocumentEdge (p :: s) = false := by
  simp [atDocumentEdge, atMarker_of_pos h]

theorem atDocumentEdge_place_of_pos {line column : Nat} (cs : List Char) (h : 0 < column) :
    atDocumentEdge (place line column cs) = false := by
  cases cs with
  | nil => rfl
  | cons c rest => exact atDocumentEdge_of_pos h

def firstToken (line : Nat) (tail : List Char) : Source :=
  (place line 0 tail).dropWhile (·.char = ' ')

theorem dropWhile_pad {line column : Nat} (n : Nat) {c : Char} (hc : c ≠ ' ') (rest : List Char) :
    (place line column (pad n ++ c :: rest)).dropWhile (·.char = ' ')
      = place line (column + n) (c :: rest) := by
  induction n generalizing column with
  | zero => simp [place_cons, hc]
  | succ n ih => simp [ih, Nat.add_assoc, Nat.add_comm 1 n]

theorem firstToken_pad {line : Nat} (n : Nat) {c : Char} (hc : startsToken c = true)
    (rest : List Char) : firstToken line (pad n ++ c :: rest) = place line n (c :: rest) := by
  have hne : c ≠ ' ' := by
    rintro rfl
    cases hc
  rw [firstToken, dropWhile_pad n hne, Nat.zero_add]

theorem length_firstToken_le {line : Nat} (tail : List Char) :
    (firstToken line tail).length ≤ tail.length := by
  have hle := (List.dropWhile_sublist (fun p : Placed => p.char = ' ')
    (l := place line 0 tail)).length_le
  simpa [firstToken] using hle

end Source

/--
What can stand behind the text of a node: the end, or a line that is indented no further than the
innermost block around the node.
-/
inductive Ends : List Nat → List Char → Prop where
  | text (indents : List Nat) : Ends indents []
  | line {column outer : Nat} (indents : List Nat) {c : Char} (rest : List Char)
      (hcolumn : column ≤ outer) (hc : startsToken c = true) :
      Ends (outer :: indents) (pad column ++ c :: rest)

theorem Ends.inner {outer column : Nat} {indents : List Nat} {tail : List Char}
    (htail : Ends (outer :: indents) tail) (h : outer ≤ column) :
    Ends (column :: outer :: indents) tail := by
  cases htail with
  | text => exact .text _
  | line _ rest hle hc => exact .line _ rest (Nat.le_trans hle h) hc

theorem Ends.line_firstToken {indents : List Nat} {tail : List Char} (h : Ends indents tail)
    {line : Nat} {p : Placed} (hp : (Source.firstToken line tail).head? = some p) :
    p.line = line := by
  cases h with
  | text => cases hp
  | line _ _ _ hc =>
    rw [Source.firstToken_pad _ hc, Source.place_cons] at hp
    cases hp
    rfl

end Yaml
end FixtureLab
