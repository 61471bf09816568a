import FixtureLab.Graph.Page
import FixtureLab.Proofs.Text.Replace

/-!
This module contains the parts of the explorer page: what stands around its placeholders, and what a
replacement does to the page once texts stand in their places.
-/

namespace FixtureLab
namespace Graph
namespace Page

open Text

def text (ls : List String) : List Char := ls.flatMap fun line => line.toList ++ ['\n']

def filled (nodes edges records : List Char) : List Char :=
  text (lines.take 20) ++ "  <span class=\"meta\">".toList ++ nodes ++ " fixtures, ".toList ++
    edges ++ " edges</span>\n".toList ++ text ((lines.drop 21).take 8) ++
    "var forceData = ".toList ++ records ++ ";\n".toList ++ text (lines.drop 30)

theorem text_append (ls ls' : List String) : text (ls ++ ls') = text ls ++ text ls' :=
  List.flatMap_append

theorem text_cons (line : String) (ls : List String) :
    text (line :: ls) = line.toList ++ '\n' :: text ls := by
  simp [text]

theorem lines_eq :
    lines
      = lines.take 20
        ++ ("  <span class=\"meta\">" ++ nodesHole ++ " fixtures, " ++ edgesHole ++ " edges</span>")
        :: ((lines.drop 21).take 8
        ++ ("var forceData = " ++ recordsHole ++ ";") :: lines.drop 30) := by
  have hcounts :
      "  <span class=\"meta\">" ++ nodesHole ++ " fixtures, " ++ edgesHole ++ " edges</span>"
        = "  <span class=\"meta\">\x7b\x7bNODES_COUNT\x7d\x7d fixtures, "
          ++ "\x7b\x7bEDGES_COUNT\x7d\x7d edges</span>" := by
    decide +kernel
  have hrecords : "var forceData = " ++ recordsHole ++ ";"
      = "var forceData = \x7b\x7bGRAPH_JSON\x7d\x7d;" := by
    decide +kernel
  rw [hcounts, hrecords]
  rfl

theorem template_eq :
    template = filled nodesHole.toList edgesHole.toList recordsHole.toList := by
  have hcounts : " edges</span>\n".toList = " edges</span>".toList ++ ['\n'] := by decide +kernel
  have hrecords : ";\n".toList = ";".toList ++ ['\n'] := by decide +kernel
  have htemplate : template = text lines := rfl
  rw [htemplate, lines_eq, text_append, text_cons, text_append, text_cons]
  simp only [filled, hcounts, hrecords, String.toList_append, List.append_assoc, List.cons_append,
    List.nil_append]

def beforeNodes : List Char := text (lines.take 20) ++ "  <span class=\"meta\"".toList

def beforeRecords : List Char :=
  text ("edges</span>" :: (lines.drop 21).take 8) ++ "var forceData =".toList

def afterRecords : List Char := text ("" :: lines.drop 30)

theorem filled_eq (nodes edges records : List Char) :
    filled nodes edges records
      = beforeNodes ++ '>' :: (nodes ++ ' ' :: ("fixtures,".toList ++ ' ' :: (edges ++ ' ' ::
          (beforeRecords ++ ' ' :: (records ++ ';' :: afterRecords))))) := by
  have hnodes : "  <span class=\"meta\">".toList = "  <span class=\"meta\"".toList ++ ['>'] := by
    decide +kernel
  have hbetween : " fixtures, ".toList = ' ' :: "fixtures,".toList ++ [' '] := by decide +kernel
  have hedges : " edges</span>\n".toList = ' ' :: "edges</span>".toList ++ ['\n'] := by
    decide +kernel
  have hrecords : "var forceData = ".toList = "var forceData =".toList ++ [' '] := by decide +kernel
  have hend : ";\n".toList = [';', '\n'] := by decide +kernel
  unfold filled beforeNodes beforeRecords afterRecords
  simp only [hnodes, hbetween, hedges, hrecords, hend, text_cons, String.toList_empty,
    List.append_assoc, List.cons_append, List.nil_append]

theorem filled_inj {nodes edges records records' : List Char}
    (h : filled nodes edges records = filled nodes edges records') : records = records' := by
  simpa [filled] using h

def braces : List Char := ['{', '{']

def isHoleChar (c : Char) : Bool := c.isUpper || c = '_' || c = '{' || c = '}'

structure IsHole (p : List Char) : Prop where
  braces : braces <+: p
  chars : ∀ c ∈ p, isHoleChar c

namespace IsHole

variable {p : List Char}

theorem of_all (h : Page.braces.isPrefixOf p && p.all isHoleChar) : IsHole p := by
  rw [Bool.and_eq_true, List.isPrefixOf_iff_prefix, List.all_eq_true] at h
  exact ⟨h.1, h.2⟩

theorem ne_nil (h : IsHole p) : p ≠ [] := by
  rintro rfl
  exact absurd h.braces (by decide)

theorem not_mem (h : IsHole p) {c : Char} (hc : isHoleChar c = false) : c ∉ p := by
  intro hmem
  rw [h.chars c hmem] at hc
  cases hc

end IsHole

theorem isHole_recordsHole : IsHole recordsHole.toList := .of_all (by decide +kernel)

theorem isHole_nodesHole : IsHole nodesHole.toList := .of_all (by decide +kernel)

theorem isHole_edgesHole : IsHole edgesHole.toList := .of_all (by decide +kernel)

theorem not_braces_infix_ofList {cs : List Char} (h : occurrences braces cs = 0) :
    ¬braces <:+: (String.ofList cs).toList := by
  rw [String.toList_ofList]
  exact (occurrences_eq_zero_iff (List.cons_ne_nil _ _)).1 h

set_option maxRecDepth 10000 in
theorem not_braces_infix_of_mem_lines :
    ∀ line ∈ lines.take 20 ++ (lines.drop 21).take 8 ++ lines.drop 30,
      ¬braces <:+: line.toList := by
  simp only [lines, List.take_succ_cons, List.take_zero, List.drop_succ_cons, List.drop_zero,
    List.cons_append, List.nil_append]
  -- A literal is the string of its characters by definition, which spares the kernel its bytes.
  repeat refine List.forall_mem_cons.2 ⟨not_braces_infix_ofList (by decide +kernel), ?_⟩
  exact List.forall_mem_nil _

section

variable {p r : List Char} (hp : IsHole p)
include hp

theorem replaceAll_line {line : String} (h : ¬braces <:+: line.toList) :
    replaceAll p r line.toList = line.toList :=
  replaceAll_eq_self fun hinfix => h (hp.braces.isInfix.trans hinfix)

theorem replaceAll_text {ls : List String} (h : ∀ line ∈ ls, ¬braces <:+: line.toList)
    (rest : List Char) : replaceAll p r (text ls ++ rest) = text ls ++ replaceAll p r rest := by
  induction ls with
  | nil => rfl
  | cons line ls ih =>
    obtain ⟨hline, hls⟩ := List.forall_mem_cons.1 h
    rw [text_cons, List.append_assoc, List.cons_append,
      replaceAll_append_cons hp.ne_nil (hp.not_mem (by decide)), replaceAll_line hp hline, ih hls]
    simp

theorem replaceAll_filled (nodes edges records : List Char) :
    replaceAll p r (filled nodes edges records)
      = filled (replaceAll p r nodes) (replaceAll p r edges) (replaceAll p r records) := by
  have hgreater := replaceAll_append_cons (r := r) hp.ne_nil (hp.not_mem (c := '>') (by decide))
  have hspace := replaceAll_append_cons (r := r) hp.ne_nil (hp.not_mem (c := ' ') (by decide))
  have hsemicolon := replaceAll_append_cons (r := r) hp.ne_nil (hp.not_mem (c := ';') (by decide))
  have hlines := not_braces_infix_of_mem_lines
  rw [List.forall_mem_append, List.forall_mem_append] at hlines
  obtain ⟨⟨hfirst, hmiddle⟩, hlast⟩ := hlines
  have hfixtures : replaceAll p r "fixtures,".toList = "fixtures,".toList :=
    replaceAll_line hp (not_braces_infix_ofList (by decide +kernel))
  have hbefore : replaceAll p r beforeNodes = beforeNodes := by
    rw [beforeNodes, replaceAll_text hp hfirst,
      replaceAll_line hp (not_braces_infix_ofList (by decide +kernel))]
  have hbetween : replaceAll p r beforeRecords = beforeRecords := by
    have hmiddle : ∀ line ∈ "edges</span>" :: (lines.drop 21).take 8, ¬braces <:+: line.toList :=
      List.forall_mem_cons.2 ⟨not_braces_infix_ofList (by decide +kernel), hmiddle⟩
    rw [beforeRecords, replaceAll_text hp hmiddle,
      replaceAll_line hp (not_braces_infix_ofList (by decide +kernel))]
  have hafter : replaceAll p r afterRecords = afterRecords := by
    have hlast : ∀ line ∈ "" :: lines.drop 30, ¬braces <:+: line.toList :=
      List.forall_mem_cons.2 ⟨by decide +kernel, hlast⟩
    rw [← List.append_nil afterRecords, afterRecords, replaceAll_text hp hlast]
    rfl
  rw [filled_eq, filled_eq, hgreater, hspace, hspace, hspace, hspace, hsemicolon, hbefore,
    hfixtures, hbetween, hafter]

end

end Page
end Graph
end FixtureLab
