import FixtureLab.Proofs.Glob.Matching
import FixtureLab.Proofs.Tree.Walking
import Mathlib.Data.List.TakeWhile

/-!
This module contains which files the expansion of a pattern finds in a working directory without
links. The walk takes the pattern for a path and the matching takes it for a glob, and files are
lost where the two disagree: where an escape is in the start of the pattern, and where a set matches
a slash that it does not spell.
-/

namespace FixtureLab
namespace FileSystem

open FileTree
open Schema (Error)

def start (pattern : String) : Location :=
  (pieces pattern).takeWhile fun piece => !hasWildcard piece.toList

def HasFile (fs : FileSystem) (l : Location) : Prop := fs.tree.HasFile (fs.workDir ++ l)

def Matched (fs : FileSystem) (tokens : List Glob.Token) (l : Location) : Prop :=
  fs.HasFile l ∧ Glob.isMatch tokens (relativePath l).toUTF8.toList

/--
A pattern can be expanded in a working directory without links: it has a wildcard, is read as these
elements, and none of its pieces is empty or made of dots that stand for a directory.
-/
structure Expandable (fs : FileSystem) (pattern : String) (tokens : List Glob.Token) : Prop where
  workDir : ∃ es, fs.tree.find? fs.workDir = some (.dir es) ∧ Plain (.dir es)
  wildcard : hasWildcard pattern.toList
  tokens : Glob.tokens pattern.toList = .ok tokens
  proper : ∀ piece ∈ pieces pattern, piece ∉ ["", ".", ".."]

/--
The walk for a pattern gets to a location: it is below the start of the pattern, and unless there
are two stars next to each other it is no longer than the pattern.
-/
structure Reached (pattern : String) (l : Location) : Prop where
  below : ∃ below ≠ [], l = start pattern ++ below
  depth : hasDoubleStar pattern.toList = false → l.length ≤ (pieces pattern).length

def IsListing (pattern : String) (wanted : Location → Prop) : Except Error (List Path) → Prop
  | .ok paths => ∃ ls : List Location, paths = ls.map relativePath ∧ ls ≠ []
    ∧ ls.Pairwise (· < ·) ∧ ∀ l, l ∈ ls ↔ wanted l
  | .error e => e = .noMatch pattern ∧ ∀ l, ¬wanted l

theorem IsListing.congr {pattern : String} {wanted wanted' : Location → Prop}
    {found : Except Error (List Path)} (h : IsListing pattern wanted found)
    (hiff : ∀ l, wanted l ↔ wanted' l) : IsListing pattern wanted' found := by
  cases found with
  | ok paths =>
    obtain ⟨ls, hpaths, hne, hsorted, hmem⟩ := h
    exact ⟨ls, hpaths, hne, hsorted, fun l => (hmem l).trans (hiff l)⟩
  | error e => exact ⟨h.1, fun l hl => h.2 l ((hiff l).2 hl)⟩

theorem IsListing.imp {pattern : String} {wanted wanted' : Location → Prop}
    {found : Except Error (List Path)} (h : IsListing pattern wanted found)
    (h' : IsListing pattern wanted' found)
    (hnames : ∀ l, wanted l ∨ wanted' l → l ≠ [] ∧ ∀ name ∈ l, '/' ∉ name.toList)
    {l : Location} (hl : wanted l) : wanted' l := by
  cases found with
  | ok paths =>
    obtain ⟨ls, rfl, -, -, hmem⟩ := h
    obtain ⟨ls', hpaths, -, -, hmem'⟩ := h'
    have hpath : relativePath l ∈ ls'.map relativePath :=
      hpaths ▸ List.mem_map_of_mem ((hmem l).2 hl)
    obtain ⟨l', hl', heq⟩ := List.mem_map.1 hpath
    have hwanted := (hmem' l').1 hl'
    obtain ⟨hne, hslash⟩ := hnames l (.inl hl)
    obtain ⟨hne', hslash'⟩ := hnames l' (.inr hwanted)
    rw [← pieces_relativePath hne hslash, ← heq, pieces_relativePath hne' hslash']
    exact hwanted
  | error e => exact absurd hl (h.2 l)

theorem isListing_of_mem_iff {pattern : String} {wanted : Location → Prop} {ls : List Location}
    {keep : Path → Bool} (hnodup : ls.Nodup) (hnames : ∀ l ∈ ls, ∀ name ∈ l, IsName name)
    (hmem : ∀ l, l ∈ ls ∧ keep (relativePath l) ↔ wanted l) :
    IsListing pattern wanted
      (if ((ls.map relativePath).filter keep).isEmpty then .error (.noMatch pattern)
        else .ok (((ls.map relativePath).filter keep).mergeSort pathLe)) := by
  have hkept : ∀ l, l ∈ ls.filter (keep ∘ relativePath) ↔ wanted l := fun l => by
    rw [List.mem_filter, ← hmem l]
    rfl
  rw [List.filter_map, mergeSort_relativePath fun l hl => hnames l (List.mem_of_mem_filter hl)]
  split
  . next hempty =>
    have hnil : ls.filter (keep ∘ relativePath) = [] := by simpa using hempty
    refine ⟨rfl, fun l hl => ?_⟩
    exact absurd (hnil ▸ (hkept l).2 hl) List.not_mem_nil
  . next hsome =>
    refine ⟨_, rfl, ?_, pairwise_lt_mergeSort (hnodup.filter _), fun l => ?_⟩
    . rw [Ne, ← List.length_eq_zero_iff, List.length_mergeSort, List.length_eq_zero_iff]
      simpa using hsome
    . rw [List.mem_mergeSort, hkept]

theorem Expandable.isName {fs : FileSystem} {pattern : String} {tokens : List Glob.Token}
    (h : fs.Expandable pattern tokens) : ∀ piece ∈ pieces pattern, IsName piece :=
  fun piece hpiece => isName_iff.2 ⟨h.proper piece hpiece, slash_notMem_of_mem_pieces hpiece⟩

section Walk

variable {fs : FileSystem} {es : List (String × FileTree)} {pattern : String}

def base (pattern : String) : Location :=
  if (start pattern).isEmpty then ["."] else start pattern

theorem isName_of_mem_start (hpieces : ∀ piece ∈ pieces pattern, IsName piece) :
    ∀ name ∈ start pattern, IsName name :=
  fun name hname => hpieces name ((List.takeWhile_sublist _).mem hname)

theorem isPiece_of_mem_base (hpieces : ∀ piece ∈ pieces pattern, IsName piece) :
    ∀ piece ∈ base pattern, IsPiece piece := by
  unfold base
  split
  . rw [List.forall_mem_singleton]
    exact ⟨by decide, by decide⟩
  . exact fun piece hpiece => (isName_of_mem_start hpieces piece hpiece).toIsPiece

theorem locate?_base (h : Plain (.dir es)) (hroot : fs.tree.find? fs.workDir = some (.dir es))
    (hpieces : ∀ piece ∈ pieces pattern, IsName piece) :
    fs.locate? (relativePath (base pattern))
      = if ((FileTree.dir es).find? (start pattern)).isSome then some (fs.workDir ++ start pattern)
        else none := by
  unfold base
  split
  . next hstart =>
    rw [List.isEmpty_iff.1 hstart, List.append_nil]
    exact locate?_current hroot
  . next hstart =>
    exact locate?_relativePath h hroot (mt List.isEmpty_iff.2 hstart) (isName_of_mem_start hpieces)

theorem find?_workDir_append (hroot : fs.tree.find? fs.workDir = some (.dir es)) (l : Location) :
    fs.tree.find? (fs.workDir ++ l) = (FileTree.dir es).find? l := by
  rw [find?_append, hroot, Option.bind_some]

theorem isDir_base_iff (h : Plain (.dir es)) (hroot : fs.tree.find? fs.workDir = some (.dir es))
    (hpieces : ∀ piece ∈ pieces pattern, IsName piece) :
    fs.isDir (relativePath (base pattern))
      ↔ ∃ below, (FileTree.dir es).find? (start pattern) = some (.dir below) := by
  rw [isDir, at?, locate?_base h hroot hpieces]
  cases hnode : (FileTree.dir es).find? (start pattern) with
  | none => simp
  | some node => cases node <;> simp [find?_workDir_append hroot, hnode, isDirectory]

theorem expand_eq {tokens : List Glob.Token} (hwildcard : hasWildcard pattern.toList)
    (htokens : Glob.tokens pattern.toList = .ok tokens)
    (hpieces : ∀ piece ∈ pieces pattern, IsName piece) :
    fs.expand pattern
      = if !fs.isDir (relativePath (base pattern)) then .error (.noMatch pattern)
        else
          match fs.walk (relativePath (base pattern))
            (if hasDoubleStar pattern.toList then none
              else some ((pieces pattern).length - (start pattern).length)) with
          | none => .error (.unwalkable (relativePath (base pattern)))
          | some found =>
            let found := if (start pattern).isEmpty then found.map dropDot else found
            let hits := found.filter fun p => Glob.isMatch tokens p.toUTF8.toList
            if hits.isEmpty then .error (.noMatch pattern) else .ok (hits.mergeSort pathLe) := by
  have hfixed : (Path.components pattern).takeWhile (fun c => !hasWildcard c.text)
      = (start pattern).map fun name => Path.Component.normal name.toList := by
    rw [components_eq_of_isName hpieces, List.takeWhile_map]
    rfl
  have hroot : (if (start pattern).isEmpty then "." else relativePath (start pattern))
      = relativePath (base pattern) := by
    unfold base
    split <;> rfl
  unfold expand
  rw [hwildcard, htokens]
  dsimp only
  rw [hfixed, components_eq_of_isName hpieces, pathOf_names (isName_of_mem_start hpieces),
    List.length_map, List.length_map, List.isEmpty_map, hroot]
  rfl

theorem within_iff_length_le (pattern : String) (below : Location) :
    Within (if hasDoubleStar pattern.toList then none
        else some ((pieces pattern).length - (start pattern).length)) below
      ↔ (hasDoubleStar pattern.toList = false
        → (start pattern ++ below).length ≤ (pieces pattern).length) := by
  have hlength : (start pattern).length ≤ (pieces pattern).length :=
    (List.takeWhile_sublist _).length_le
  cases hasDoubleStar pattern.toList with
  | true => simp [Within]
  | false =>
    simp only [Bool.false_eq_true, if_false, Within, Option.mem_def, Option.some.injEq, forall_eq',
      true_imp_iff, List.length_append]
    omega

theorem found_eq {ls : List Location} (hne : ∀ l ∈ ls, l ≠ []) :
    (if (start pattern).isEmpty then
        (ls.map fun l => relativePath (base pattern ++ l)).map dropDot
      else ls.map fun l => relativePath (base pattern ++ l))
      = (ls.map (start pattern ++ ·)).map relativePath := by
  rw [base, List.map_map]
  split
  . next hstart =>
    rw [List.map_map, List.isEmpty_iff.1 hstart]
    exact List.map_congr_left fun l hl => dropDot_relativePath (hne l hl)
  . rw [List.map_map]
    rfl

theorem Expandable.isListing_reached {tokens : List Glob.Token}
    (hexpandable : fs.Expandable pattern tokens) :
    IsListing pattern (fun l => fs.Matched tokens l ∧ Reached pattern l) (fs.expand pattern) := by
  have hpieces := hexpandable.isName
  obtain ⟨es, hroot, h⟩ := hexpandable.workDir
  have hfile : ∀ l, fs.HasFile l ↔ (FileTree.dir es).HasFile l := hasFile_append hroot
  rw [expand_eq hexpandable.wildcard hexpandable.tokens hpieces]
  have hisDir := isDir_base_iff h hroot hpieces
  by_cases hdir : ∃ below, (FileTree.dir es).find? (start pattern) = some (.dir below)
  . rw [hisDir.2 hdir]
    obtain ⟨inner, hinner⟩ := hdir
    have hlocate := locate?_base h hroot hpieces
    rw [hinner, Option.isSome_some, if_pos rfl] at hlocate
    obtain ⟨ls, hfound, hnodup, hmem⟩ := lists_walk (h.of_find? hinner).1 hlocate
      ((find?_workDir_append hroot _).trans hinner) (isPiece_of_mem_base hpieces)
    have hbelow : ∀ below, fs.HasFile (start pattern ++ below)
        ↔ (FileTree.dir inner).HasFile below :=
      fun below => (hfile _).trans (hasFile_append hinner below)
    have hne : ∀ l ∈ ls, l ≠ [] := fun l hl => ((hmem l).1 hl).1.ne_nil
    rw [hfound, if_neg (by simp)]
    dsimp only
    rw [found_eq hne]
    refine isListing_of_mem_iff (hnodup.map (List.append_right_injective _)) ?_ fun l => ?_
    . intro l hl
      obtain ⟨below, hmember, rfl⟩ := List.mem_map.1 hl
      exact h.isName_of_hasFile ((hfile _).1 ((hbelow below).2 ((hmem below).1 hmember).1))
    . rw [List.mem_map]
      constructor
      . rintro ⟨⟨below, hl, rfl⟩, hmatch⟩
        obtain ⟨hinnerFile, hwithin⟩ := (hmem below).1 hl
        exact ⟨⟨(hbelow below).2 hinnerFile, hmatch⟩, ⟨below, hinnerFile.ne_nil, rfl⟩,
          (within_iff_length_le pattern below).1 hwithin⟩
      . rintro ⟨⟨hlFile, hmatch⟩, ⟨below, -, rfl⟩, hdepth⟩
        refine ⟨⟨below, (hmem below).2 ⟨(hbelow below).1 hlFile, ?_⟩, rfl⟩, hmatch⟩
        exact (within_iff_length_le pattern below).2 hdepth
  . -- No file is below a start that is no directory.
    rw [if_pos (by simpa using mt hisDir.1 hdir)]
    refine ⟨rfl, ?_⟩
    rintro l ⟨⟨hlFile, -⟩, ⟨below, hne, rfl⟩, -⟩
    exact hdir (((hfile _).1 hlFile).exists_dir hne)

end Walk

section Reach

variable {fs : FileSystem} {es : List (String × FileTree)}
  {pattern : String} {tokens : List Glob.Token} {l : Location}

theorem hasDoubleStar_iff (cs : List Char) : hasDoubleStar cs ↔ ['*', '*'] <:+: cs := by
  fun_induction hasDoubleStar cs with
  | case1 rest => exact iff_of_true rfl ⟨[], rest, rfl⟩
  | case2 c rest hstars ih =>
    rw [ih, List.infix_cons_iff, or_iff_right]
    rintro ⟨more, heq⟩
    obtain ⟨rfl, rfl⟩ := List.cons.inj heq
    exact hstars more rfl rfl
  | case3 => simp

theorem hasWildcard_iff (cs : List Char) :
    hasWildcard cs ↔ ∃ c ∈ cs, c ∈ ['*', '?', '[', '\x7b'] := by
  simp [hasWildcard, or_assoc]

theorem exists_rest_of_hasWildcard (hwildcard : hasWildcard pattern.toList) :
    ∃ rest ≠ [], pieces pattern = start pattern ++ rest := by
  refine ⟨(pieces pattern).dropWhile fun piece => !hasWildcard piece.toList, fun hnil => ?_,
    List.takeWhile_append_dropWhile.symm⟩
  rw [List.dropWhile_eq_nil_iff] at hnil
  obtain ⟨c, hc, hspecial⟩ := (hasWildcard_iff _).1 hwildcard
  rw [← relativePath_pieces pattern] at hc
  rcases mem_relativePath hc with rfl | ⟨piece, hpiece, hc⟩
  . exact absurd hspecial (by decide)
  . have hnone := hnil piece hpiece
    rw [(hasWildcard_iff _).2 ⟨c, hc, hspecial⟩] at hnone
    cases hnone

theorem Expandable.proper_of_hasFile (h : fs.Expandable pattern tokens) (hl : fs.HasFile l) :
    l ≠ [] ∧ ∀ name ∈ l, '/' ∉ name.toList := by
  obtain ⟨es, hroot, hplain⟩ := h.workDir
  have hfile := (hasFile_append hroot l).1 hl
  exact ⟨hfile.ne_nil, fun name hname => (hplain.isName_of_hasFile hfile name hname).no_slash⟩

theorem not_special_of_mem_start (hescape : ∀ name ∈ start pattern, '\\' ∉ name.toList) :
    ∀ c ∈ (relativePath (start pattern)).toList, c ∉ ['?', '*', '[', '\x7b', '\\'] := by
  intro c hc hspecial
  rcases mem_relativePath hc with rfl | ⟨name, hname, hc⟩
  . exact absurd hspecial (by decide)
  . have hnone : hasWildcard name.toList = false := by
      simpa using List.mem_takeWhile_imp hname
    have hwild : c ∈ ['*', '?', '[', '\x7b'] := by
      have hne : c ≠ '\\' := fun heq => hescape name hname (heq ▸ hc)
      simpa [hne, or_left_comm] using hspecial
    rw [(hasWildcard_iff _).2 ⟨c, hc, hwild⟩] at hnone
    cases hnone

theorem Expandable.exists_below (h : fs.Expandable pattern tokens)
    (hescape : ∀ name ∈ start pattern, '\\' ∉ name.toList) (hl : fs.Matched tokens l) :
    ∃ below ≠ [], l = start pattern ++ below := by
  obtain ⟨hne, hslash⟩ := h.proper_of_hasFile hl.1
  by_cases hstart : start pattern = []
  . exact ⟨l, hne, by rw [hstart, List.nil_append]⟩
  obtain ⟨rest, hrest, hpieces⟩ := exists_rest_of_hasWildcard h.wildcard
  have htext : pattern.toList
      = (relativePath (start pattern)).toList ++ '/' :: (relativePath rest).toList := by
    conv_lhs => rw [← relativePath_pieces pattern, hpieces, relativePath_append hstart hrest]
    simp
  -- The start is read as it is, so that all matched texts begin with it and a slash.
  obtain ⟨u, more, rfl, hu⟩ :=
    Glob.tokens_of_plain_start (not_special_of_mem_start hescape) (htext ▸ h.tokens)
  obtain ⟨tail, htail⟩ := Glob.exists_rest_of_isMatch hu hl.2
  have hprefix : (relativePath (start pattern)).toList ++ ['/'] <+: (relativePath l).toList := by
    refine Glob.prefix_of_flatMap_charBytes (x := tail) ?_
    have hbyte : Glob.charBytes '/' = [Glob.slash] := by
      rw [Glob.charBytes_eq]
      rfl
    rw [← Glob.toList_toUTF8_eq, htail]
    simp [hbyte]
  obtain ⟨text, heq⟩ := hprefix
  rw [List.append_assoc, List.singleton_append] at heq
  refine exists_below_of_toList_eq hne hslash hstart (fun name hname => ?_) heq.symm
  exact slash_notMem_of_mem_pieces ((List.takeWhile_sublist _).mem hname)

theorem Expandable.length_le (h : fs.Expandable pattern tokens)
    (hstars : hasDoubleStar pattern.toList = false)
    (hspelled : ∀ leaf ∈ Glob.seqLeaves tokens, leaf.SlashSpelled) (hl : fs.Matched tokens l) :
    l.length ≤ (pieces pattern).length := by
  have hnone : ¬['*', '*'] <:+: pattern.toList := fun hinfix =>
    Bool.false_ne_true (hstars ▸ (hasDoubleStar_iff _).2 hinfix)
  obtain ⟨hcount, hleaves⟩ := Glob.leaves_of_tokens h.tokens hnone
  have hle := Glob.count_slash_le_of_isMatch
    (fun leaf hleaf => ⟨hleaves leaf hleaf, hspelled leaf hleaf⟩) hl.2
  obtain ⟨hne, hslash⟩ := h.proper_of_hasFile hl.1
  have hlength := count_slash_relativePath hne hslash
  have hpattern := count_slash_relativePath (pieces_ne_nil pattern)
    fun _ => slash_notMem_of_mem_pieces
  rw [Glob.count_slash_toUTF8] at hle
  rw [relativePath_pieces] at hpattern
  omega

/--
What the expansion of a pattern finds in a working directory without links: the matched files that
the walk gets to, so that it finds all matched files iff the walk gets to each. It does if the
pattern has no escapes in its start, and either two stars next to each other or no set that matches
a slash without spelling one.
-/
theorem expand_finds_reached (h : fs.Expandable pattern tokens) :
    IsListing pattern (fun l => fs.Matched tokens l ∧ Reached pattern l) (fs.expand pattern)
      ∧ (IsListing pattern (fs.Matched tokens) (fs.expand pattern)
        ↔ ∀ l, fs.Matched tokens l → Reached pattern l)
      ∧ ((∀ name ∈ start pattern, '\\' ∉ name.toList) →
        (hasDoubleStar pattern.toList ∨ ∀ leaf ∈ Glob.seqLeaves tokens, leaf.SlashSpelled) →
        IsListing pattern (fs.Matched tokens) (fs.expand pattern)) := by
  have hreached := h.isListing_reached
  have hall : (∀ l, fs.Matched tokens l → Reached pattern l) →
      IsListing pattern (fs.Matched tokens) (fs.expand pattern) := fun hall =>
    hreached.congr fun l => ⟨And.left, fun hl => ⟨hl, hall l hl⟩⟩
  refine ⟨hreached, ⟨fun hlisting l hl => ?_, hall⟩, fun hescape hset => hall fun l hl => ?_⟩
  . refine (hlisting.imp hreached (fun l hl => h.proper_of_hasFile ?_) hl).2
    exact hl.elim And.left fun hl => hl.1.1
  . refine ⟨h.exists_below hescape hl, fun hstars => h.length_le hstars ?_ hl⟩
    exact hset.resolve_left (by simp [hstars])

def oneFile (directory name : String) : FileSystem where
  tree := .dir [("work", .dir [(directory, .dir [(name, .file ⟨#[]⟩)])])]
  workDir := ["work"]

theorem plain_oneFile {directory name : String} (hdirectory : IsName directory)
    (hname : IsName name) :
    ∃ es, (oneFile directory name).tree.find? (oneFile directory name).workDir = some (.dir es)
      ∧ Plain (.dir es) := by
  have hinner : Plain (.dir [(name, .file ⟨#[]⟩)]) :=
    .dir (by simpa using hname) (by simp) (by simpa using .file)
  refine ⟨_, rfl, .dir ?_ ?_ ?_⟩
  . simpa using hdirectory
  . simp
  . simpa using hinner

theorem hasFile_oneFile (directory name : String) :
    (oneFile directory name).HasFile [directory, name] :=
  ⟨⟨#[]⟩, by simp [oneFile, find?, entries, Table.find?]⟩

theorem expand_finds_oneFile :
    ∃ tokens, (oneFile "json" "a.json").Expandable "json/[ab].json" tokens
      ∧ IsListing "json/[ab].json" ((oneFile "json" "a.json").Matched tokens)
        ((oneFile "json" "a.json").expand "json/[ab].json")
      ∧ (oneFile "json" "a.json").expand "json/[ab].json" = .ok ["json/a.json"] := by
  have h : (oneFile "json" "a.json").Expandable "json/[ab].json" _ :=
    ⟨plain_oneFile (by decide +kernel) (by decide +kernel), by decide +kernel, rfl,
      by decide +kernel⟩
  exact ⟨_, h, (expand_finds_reached h).2.2 (by decide +kernel) (.inr (by decide +kernel)),
    by decide +kernel⟩

theorem not_isListing_oneFile {directory name : String}
    (hmatch : Glob.isMatch tokens (relativePath [directory, name]).toUTF8.toList)
    (hexpand : (oneFile directory name).expand pattern = .error (.noMatch pattern)) :
    ¬IsListing pattern ((oneFile directory name).Matched tokens)
      ((oneFile directory name).expand pattern) := by
  rw [hexpand]
  exact fun hlisting => hlisting.2 _ ⟨hasFile_oneFile directory name, hmatch⟩

theorem expand_loses_matches :
    (∃ tokens, (oneFile "ab" "x.json").Expandable "a\\b/*.json" tokens
      ∧ (oneFile "ab" "x.json").expand "a\\b/*.json" = .error (.noMatch "a\\b/*.json")
      ∧ ¬IsListing "a\\b/*.json" ((oneFile "ab" "x.json").Matched tokens)
        ((oneFile "ab" "x.json").expand "a\\b/*.json"))
    ∧ ∃ tokens, (oneFile "a" "b").Expandable "a[.-0]b" tokens
      ∧ (oneFile "a" "b").expand "a[.-0]b" = .error (.noMatch "a[.-0]b")
      ∧ ¬IsListing "a[.-0]b" ((oneFile "a" "b").Matched tokens)
        ((oneFile "a" "b").expand "a[.-0]b") := by
  have hescape : (oneFile "ab" "x.json").Expandable "a\\b/*.json" _ :=
    ⟨plain_oneFile (by decide +kernel) (by decide +kernel), by decide +kernel, rfl,
      by decide +kernel⟩
  have hset : (oneFile "a" "b").Expandable "a[.-0]b" _ :=
    ⟨plain_oneFile (by decide +kernel) (by decide +kernel), by decide +kernel, rfl,
      by decide +kernel⟩
  exact ⟨⟨_, hescape, rfl, not_isListing_oneFile (by decide +kernel) rfl⟩,
    ⟨_, hset, rfl, not_isListing_oneFile (by decide +kernel) rfl⟩⟩

end Reach

end FileSystem
end FixtureLab
