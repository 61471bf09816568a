import FixtureLab.Proofs.Schema.Trails
import FixtureLab.Proofs.Schema.WellFormed

/-!
This module contains how an inference answers an offered sample: it is refused as a duplicate,
refused for its first fault in depth-first order, or accepted.
-/

namespace FixtureLab
namespace Schema

def faultTrails (members : List (String × Json)) : List Trail :=
  (spotsInMembers 0 members).filterMap fun
    | (trail, .fault) => some trail
    | (_, .leaf _) => none

def FirstFault (members : List (String × Json)) (trail : Trail) : Prop :=
  SpotAt members trail .fault ∧ ∀ other, SpotAt members other .fault → ¬other.Before trail

section Trails

variable {members : List (String × Json)} {trail : Trail}

theorem mem_faultTrails_iff : trail ∈ faultTrails members ↔ SpotAt members trail .fault := by
  rw [← mem_spotsInMembers_zero_iff, faultTrails, List.mem_filterMap]
  constructor
  . rintro ⟨⟨_, _ | _⟩, hmem, ⟨⟩⟩
    exact hmem
  . exact fun hmem => ⟨(trail, .fault), hmem, rfl⟩

theorem pairwise_faultTrails (members : List (String × Json)) :
    (faultTrails members).Pairwise Trail.Before := by
  refine List.Pairwise.filterMap _ ?_ (pairwise_spotsInMembers 0 members)
  rintro ⟨a, _ | _⟩ ⟨b, _ | _⟩ hab _ ⟨⟩ _ ⟨⟩
  exact hab

theorem firstFault_iff : FirstFault members trail ↔ (faultTrails members).head? = some trail := by
  have hpairwise := pairwise_faultTrails members
  simp only [FirstFault, ← mem_faultTrails_iff]
  cases htrails : faultTrails members with
  | nil => simp
  | cons first later =>
    rw [htrails, List.pairwise_cons] at hpairwise
    rw [List.head?_cons, Option.some.injEq]
    constructor
    . rintro ⟨hmem, hfirst⟩
      rcases List.mem_cons.1 hmem with rfl | hlater
      . rfl
      . exact absurd (hpairwise.1 trail hlater) (hfirst first List.mem_cons_self)
    . rintro rfl
      refine ⟨List.mem_cons_self, fun other hother hbefore => ?_⟩
      rcases List.mem_cons.1 hother with rfl | hlater
      . exact hbefore.asymm hbefore
      . exact (hpairwise.1 other hlater).asymm hbefore

theorem head?_faultTrails_eq_none_iff :
    (faultTrails members).head? = none ↔ ∀ trail, ¬SpotAt members trail .fault := by
  simp only [List.head?_eq_none_iff, List.eq_nil_iff_forall_not_mem, mem_faultTrails_iff]

theorem path_ne_root (h : SpotAt members trail .fault) : trail.path ≠ "$" := by
  obtain ⟨outer, last, i, key, v, rest, -, -, ⟨-, -, -, -⟩, rfl⟩ := h
  intro heq
  have hlast := congrArg (·.toList.getLast?) heq
  simp [Trail.path, Trail.pathFrom, Step.extend, List.getLast?_cons] at hlast

end Trails

theorem faults_findInMembers (type : String) (members : List (String × Json)) :
    (findInMembers type "" [] members).filterMap Finding.fault?
      =
    (faultTrails members).map Trail.path := by
  have hfault : Finding.fault?
      = fun f => f.spot?.bind fun spot => if spot.2.isNone then some spot.1 else none := by
    funext f
    cases f <;> rfl
  rw [hfault, ← List.filterMap_filterMap, spots_findInMembers type "" [] 0 members, spelled,
    List.filterMap_map, faultTrails, List.map_filterMap]
  apply List.filterMap_congr
  rintro ⟨trail, _ | _⟩ - <;> rfl

theorem findSome?_findIn_obj (type : String) (members : List (String × Json)) :
    (findIn type (.obj members)).findSome? Finding.fault?
      =
    (faultTrails members).head?.map Trail.path := by
  rw [findIn, ← List.head?_filterMap, faults_findInMembers, List.head?_map]

namespace Inferrer

def Call.acceptedLabel? (t : Inferrer) (c : Call) : Option String :=
  match c.sample?, (c.run t).1 with
  | some (label, _), .ok _ => some label
  | _, _ => none

def acceptedLabels (t : Inferrer) : List Call → List String
  | [] => []
  | c :: rest => (c.acceptedLabel? t).toList ++ acceptedLabels (c.run t).2 rest

theorem Call.used_run (t : Inferrer) (c : Call) :
    (c.run t).2.used = t.used ++ (c.acceptedLabel? t).toList.map Path.baseName := by
  unfold acceptedLabel?
  cases hsample : c.sample? with
  | none =>
    obtain ⟨e, hrun, -⟩ := run_of_unread hsample t
    simp [hrun]
  | some sample =>
    obtain ⟨label, v⟩ := sample
    rw [run_of_sample? hsample, addValue_eq]
    split
    . simp
    . split <;> simp

theorem used_runAll (t : Inferrer) (calls : List Call) :
    (t.runAll calls).used = t.used ++ (t.acceptedLabels calls).map Path.baseName := by
  induction calls generalizing t with
  | nil => simp [runAll, acceptedLabels]
  | cons c rest ih =>
    have hrest : t.runAll (c :: rest) = (c.run t).2.runAll rest := rfl
    rw [hrest, ih, c.used_run, acceptedLabels, List.map_append, List.append_assoc]

theorem answer_of_duplicate {t : Inferrer} {file : String} (v : Json)
    (h : Path.baseName file ∈ t.used) :
    (t.addValue file v).1 = .error (.duplicateFile (Path.baseName file)) := by
  rw [addValue_eq, if_pos h]

theorem answer_of_not_obj {t : Inferrer} {file : String} {v : Json}
    (h : Path.baseName file ∉ t.used) (hv : ∀ members, v ≠ .obj members) :
    (t.addValue file v).1 = .error (.notAnObject file "$") := by
  have hfault : (findIn t.model v).findSome? Finding.fault? = some "$" := by
    cases v with
    | obj members => exact absurd rfl (hv members)
    | _ => rfl
  rw [addValue_eq, if_neg h, hfault]

theorem answer_of_obj {t : Inferrer} {file : String} (h : Path.baseName file ∉ t.used)
    (members : List (String × Json)) :
    (t.addValue file (.obj members)).1
      =
    match (faultTrails members).head? with
    | some trail => .error (.notAnObject file trail.path)
    | none => .ok () := by
  rw [addValue_eq, if_neg h, findSome?_findIn_obj]
  cases (faultTrails members).head? <;> rfl

end Inferrer

/--
A sample is refused as a duplicate iff an accepted sample has its base name. Otherwise it is refused
at its root iff that is no object, and at its first fault in depth-first order iff it has a fault.
-/
theorem first_fault_named {name : String} {t₀ : Inferrer} (hnew : Inferrer.new name = .ok t₀)
    (calls : List Inferrer.Call) (file : String) (v : Json) :
    let answer := ((t₀.runAll calls).addValue file v).1
    let taken : Prop := Path.baseName file ∈ (t₀.acceptedLabels calls).map Path.baseName
    (answer = .error (.duplicateFile (Path.baseName file)) ↔ taken)
      ∧ (answer = .error (.notAnObject file "$") ↔ ¬taken ∧ ∀ members, v ≠ .obj members)
      ∧ (∀ members, v = .obj members →
          ((∃ place, answer = .error (.notAnObject file place))
              ↔ ¬taken ∧ ∃ trail, SpotAt members trail .fault)
            ∧ ∀ place, answer = .error (.notAnObject file place)
              ↔ ¬taken ∧ ∃ trail, FirstFault members trail ∧ place = trail.path)
      ∧ (answer = .ok ()
          ↔ ¬taken ∧ ∃ members, v = .obj members ∧ ∀ trail, ¬SpotAt members trail .fault) := by
  intro answer taken
  have hused : taken ↔ Path.baseName file ∈ (t₀.runAll calls).used := by
    cases Inferrer.new_of_ok hnew
    rw [Inferrer.used_runAll, List.nil_append]
  by_cases hdup : taken
  . have hanswer : answer = .error (.duplicateFile (Path.baseName file)) :=
      Inferrer.answer_of_duplicate v (hused.1 hdup)
    simp [hanswer, hdup]
  . have hnew : Path.baseName file ∉ (t₀.runAll calls).used := fun h => hdup (hused.2 h)
    cases v with
    | obj members =>
      have hanswer := Inferrer.answer_of_obj hnew members
      cases hhead : (faultTrails members).head? with
      | none =>
        have hok : answer = .ok () := by rw [hhead] at hanswer; exact hanswer
        have hnone := head?_faultTrails_eq_none_iff.1 hhead
        simp [hok, hdup, hnone, FirstFault]
      | some trail =>
        have herror : answer = .error (.notAnObject file trail.path) := by
          rw [hhead] at hanswer
          exact hanswer
        have hfirst : FirstFault members trail := firstFault_iff.2 hhead
        have honly : ∀ other, FirstFault members other ↔ other = trail := by
          intro other
          rw [firstFault_iff, hhead, Option.some.injEq, eq_comm]
        have hfault : ∃ trail, SpotAt members trail .fault := ⟨trail, hfirst.1⟩
        refine ⟨by simp [herror, hdup], by simp [herror, path_ne_root hfirst.1], ?named,
          by simp [herror, hfault]⟩
        rintro _ ⟨⟩
        refine ⟨by simp [herror, hdup, hfault], fun place => ?_⟩
        simp [herror, hdup, honly, eq_comm]
    | _ =>
      have hanswer : answer = .error (.notAnObject file "$") :=
        Inferrer.answer_of_not_obj hnew (by simp)
      simp [hanswer, hdup]

def unevenShelves : Json :=
  .obj
    [("loose", .arr [.int 1, .obj []]),
      ("shelves", .arr
        [.null, .obj [("books", .arr [.obj [], .null, .obj [], .str "lost"])], .bool true])]

theorem first_fault_in_unevenShelves :
    ∃ t₀, Inferrer.new "library" = .ok t₀
      ∧ t₀.acceptedLabels [.offer "a.json" (.obj [])] = ["a.json"]
      ∧ ((t₀.runAll [.offer "a.json" (.obj [])]).addValue "b.json" unevenShelves).1
        = .error (.notAnObject "b.json" "shelves[1].books[3]")
      ∧ ∃ members trail, unevenShelves = .obj members ∧ FirstFault members trail
        ∧ trail.path = "shelves[1].books[3]" := by
  have hnew : Inferrer.new "library" = .ok { model := "Library" } := rfl
  have hanswer : ((Inferrer.runAll { model := "Library" } [.offer "a.json" (.obj [])]).addValue
      "b.json" unevenShelves).1 = .error (.notAnObject "b.json" "shelves[1].books[3]") := rfl
  obtain ⟨-, -, hnamed, -⟩ :=
    first_fault_named hnew [.offer "a.json" (.obj [])] "b.json" unevenShelves
  obtain ⟨-, trail, hfirst, hpath⟩ := ((hnamed _ rfl).2 _).1 hanswer
  exact ⟨_, hnew, rfl, hanswer, _, trail, rfl, hfirst, hpath.symm⟩

end Schema
end FixtureLab
