import LineBasic.Memory.Variables
import LineBasic.Proofs.Memory.Grid

/-!
The variables as a finite map. Whatever has been set, dimensioned, stored and cleared, a scalar is
what it was last set to, and an element of an array is what was last stored at its subscripts since
the array was made. Nothing else that was done makes a difference.
-/
namespace LineBasic

def Fault.OutOfRange : Fault → Prop
  | .badSubscript _ => True
  | .wrongRank _ _ _ => True
  | .outOfBounds _ _ _ => True
  | _ => False

namespace Variables

inductive Update where
  | set (name : String) (v : Value)
  | dim (name : String) (first : Int) (rest : List Int)
  | put (name : String) (index : List Int) (v : Value)
  | clear

def attempt (vs : Variables) : Update → Except Fault Variables
  | .set name v => .ok (vs.set name v)
  | .dim name first rest => vs.dimension name (first :: rest)
  | .put name index v => vs.setElement name index v
  | .clear => .ok .empty

def update (vs : Variables) (u : Update) : Variables :=
  match vs.attempt u with
  | .ok changed => changed
  | .error _ => vs

def replay : List Update → Variables
  | [] => .empty
  | u :: past => (replay past).update u

section Spec

def Update.isClear : Update → Bool
  | .clear => true
  | _ => false

def Update.sets? (name : String) : Update → Option Value
  | .set n v => if n = name then some v else none
  | _ => none

def Update.makes? (name : String) : Update → Option (List Int)
  | .dim n first rest => if n = name ∧ GoodShape (first :: rest) then some (first :: rest) else none
  | _ => none

def Update.puts? (name : String) (index : List Int) : Update → Option Value
  | .put n i v => if n = name ∧ i = index then some v else none
  | _ => none

def sinceClear (past : List Update) : List Update := past.takeWhile fun u => !u.isClear

def lastSet (name : String) (past : List Update) : Option Value :=
  (sinceClear past).findSome? (Update.sets? name)

def lastDims (name : String) (past : List Update) : Option (List Int) :=
  (sinceClear past).findSome? (Update.makes? name)

def sinceMade (name : String) (past : List Update) : List Update :=
  (sinceClear past).takeWhile fun u => (u.makes? name).isNone

def lastPut (name : String) (index : List Int) (past : List Update) : Option Value :=
  (sinceMade name past).findSome? (Update.puts? name index)

def content (name : String) (index : List Int) (past : List Update) : Value :=
  ((lastPut name index past).map (Grid.stored (isTextName name))).getD
    (Grid.initial (isTextName name))

structure Answers (vs : Variables) (past : List Update) : Prop where
  scalar (name : String) : vs.get name = (lastSet name past).getD .zero
  undimensioned (name : String) (index : List Int) :
    vs.element name index = .error (.undimensioned name) ↔ lastDims name past = none
  outOfRange (name : String) (index : List Int) :
    (∃ f, vs.element name index = .error f ∧ f.OutOfRange) ↔
      ∃ dims, lastDims name past = some dims ∧ ¬ Inside dims index
  element (name : String) (index dims : List Int) (made : lastDims name past = some dims)
    (inside : Inside dims index) : vs.element name index = .ok (content name index past)

end Spec

section Spec

variable {name : String} {index : List Int} {past : List Update} {u : Update}

theorem sinceClearCons (kept : u.isClear = false) :
    sinceClear (u :: past) = u :: sinceClear past := by
  simp [sinceClear, kept]

theorem lastSetCons (kept : u.isClear = false) :
    lastSet name (u :: past) = (u.sets? name).or (lastSet name past) := by
  rw [lastSet, sinceClearCons kept, List.findSome?_cons]
  cases u.sets? name <;> rfl

theorem lastDimsCons (kept : u.isClear = false) :
    lastDims name (u :: past) = (u.makes? name).or (lastDims name past) := by
  rw [lastDims, sinceClearCons kept, List.findSome?_cons]
  cases u.makes? name <;> rfl

theorem contentMade {dims : List Int} (made : u.makes? name = some dims) :
    content name index (u :: past) = Grid.initial (isTextName name) := by
  have kept : u.isClear = false := by cases u <;> first | rfl | cases made
  have nothing : sinceMade name (u :: past) = [] := by
    simp [sinceMade, sinceClearCons kept, made]
  simp [content, lastPut, nothing]

theorem contentCons (kept : u.isClear = false) (other : u.makes? name = none) :
    content name index (u :: past) =
      ((u.puts? name index).map (Grid.stored (isTextName name))).getD
        (content name index past) := by
  have since : sinceMade name (u :: past) = u :: sinceMade name past := by
    simp [sinceMade, sinceClearCons kept, other]
  rw [content, lastPut, since, List.findSome?_cons]
  cases u.puts? name index <;> rfl

end Spec

section Operations

variable {vs vs' : Variables} {name n : String} {index i : List Int} {v : Value}

@[simp] theorem getSet : (vs.set n v).get name = if n = name then v else vs.get name := by
  simp only [set, get, Std.TreeMap.getD_insert, Std.LawfulEqCmp.compare_eq_iff_eq]

theorem dimensionOk {dims : List Int} (nonempty : dims ≠ []) :
    vs.dimension n dims = .ok vs' ↔ GoodShape dims ∧ vs' = { vs with
      arrays := vs.arrays.insert n (Grid.blank (isTextName n) (dims.map Int.toNat)) } := by
  unfold dimension
  rw [if_neg (by simpa using nonempty)]
  cases checked : checkDims 1 dims with
  | ok sizes =>
      obtain ⟨good, rfl⟩ := checkDimsGood.mp checked
      simp [good, eq_comm]
  | error problem =>
      have bad : ¬ GoodShape dims := by
        intro good
        rw [checkDimsGood.mpr ⟨good, rfl⟩] at checked
        cases checked
      cases problem <;> simp [bad]

theorem elementMissing (missing : vs.arrays[name]? = none) :
    vs.element name index = .error (.undimensioned name) := by
  simp [element, array, missing, bind, Except.bind]

theorem elementOf {g : Grid} (made : vs.arrays[name]? = some g) :
    vs.element name index =
      match g.at? index with
      | some v => .ok v
      | none =>
        if index.length ≠ g.dims.length then
          .error (.wrongRank name g.dims.length index.length)
        else .error (.outOfBounds name index ((firstOutside g.dims index).getD 0)) := by
  have found : vs.array name = .ok g := by simp only [array, made]
  simp only [element, found, bind, Except.bind, Grid.locate, Grid.at?]
  cases offset? g.dims index with
  | some place => rfl
  | none =>
      by_cases rank : index.length = g.dims.length
      · simp [rank]
      · simp [rank]

theorem setElementOk :
    vs.setElement name index v = .ok vs' ↔
      (∃ g, vs.arrays[name]? = some g ∧ Inside (g.dims.map Int.ofNat) index) ∧
        vs' = vs.putElement name index v := by
  cases made : vs.arrays[name]? with
  | none => simp [setElement, array, made, bind, Except.bind]
  | some g =>
      have found : vs.array name = .ok g := by simp only [array, made]
      simp only [setElement, found, bind, Except.bind, Grid.locate, Option.some.injEq,
        exists_eq_left', ← offsetFound]
      cases offset? g.dims index with
      | some place => simp [eq_comm]
      | none =>
          by_cases rank : index.length = g.dims.length
          · simp [rank]
          · simp [rank]

@[simp] theorem putElementArrays :
    (vs.putElement n i v).arrays[name]? =
      if n = name then (vs.arrays[name]?).map (·.put i v) else vs.arrays[name]? := by
  simp only [putElement, Std.TreeMap.getElem?_modify, Std.LawfulEqCmp.compare_eq_iff_eq]
  split
  · rename_i same
    rw [same]
  · rfl

end Operations

section Updates

variable {vs : Variables} {name : String} {past : List Update} {u : Update}

theorem updateDim (n : String) (first : Int) (rest : List Int) :
    vs.update (.dim n first rest) =
      if GoodShape (first :: rest) then { vs with
        arrays := vs.arrays.insert n (Grid.blank (isTextName n) ((first :: rest).map Int.toNat)) }
      else vs := by
  simp only [update, attempt]
  cases made : vs.dimension n (first :: rest) with
  | ok changed =>
      obtain ⟨good, rfl⟩ := (dimensionOk (by simp)).mp made
      rw [if_pos good]
  | error f =>
      have bad : ¬ GoodShape (first :: rest) := by
        intro good
        rw [(dimensionOk (by simp)).mpr ⟨good, rfl⟩] at made
        cases made
      rw [if_neg bad]

def HasPlace (vs : Variables) (n : String) (index : List Int) : Prop :=
  ∃ g, vs.arrays[n]? = some g ∧ Inside (g.dims.map Int.ofNat) index

theorem updatePut (n : String) (index : List Int) (v : Value) :
    vs.HasPlace n index ∧ vs.update (.put n index v) = vs.putElement n index v ∨
      ¬ vs.HasPlace n index ∧ vs.update (.put n index v) = vs := by
  simp only [update, attempt]
  cases stored : vs.setElement n index v with
  | ok changed =>
      obtain ⟨place, rfl⟩ := setElementOk.mp stored
      exact .inl ⟨place, rfl⟩
  | error f =>
      refine .inr ⟨?_, rfl⟩
      intro place
      rw [setElementOk.mpr ⟨place, rfl⟩] at stored
      cases stored

theorem updateScalar (agrees : ∀ name, vs.get name = (lastSet name past).getD .zero) :
    (vs.update u).get name = (lastSet name (u :: past)).getD .zero := by
  cases u with
  | clear => rfl
  | set n v =>
      rw [lastSetCons rfl, show vs.update (.set n v) = vs.set n v from rfl, getSet, agrees]
      by_cases same : n = name <;> simp [Update.sets?, same]
  | dim n first rest =>
      have same : (vs.update (.dim n first rest)).get name = vs.get name := by
        rw [updateDim]
        split <;> rfl
      rw [same, agrees]
      rfl
  | put n index v =>
      have same : (vs.update (.put n index v)).get name = vs.get name := by
        rcases updatePut n index v with ⟨_, stored⟩ | ⟨_, kept⟩
        · rw [stored]
          rfl
        · rw [kept]
      rw [same, agrees]
      rfl

inductive Holds (name : String) (past : List Update) : Option Grid → Prop where
  | nothing (never : lastDims name past = none) : Holds name past none
  | array {g : Grid} (made : lastDims name past = some (g.dims.map Int.ofNat))
      (kind : g.holdsTexts = isTextName name)
      (cells : ∀ index, Inside (g.dims.map Int.ofNat) index →
        g.at? index = some (content name index past)) : Holds name past (some g)

theorem Holds.unaffected {held : Option Grid} (holds : Holds name past held)
    (kept : u.isClear = false) (other : u.makes? name = none)
    (apart : ∀ g ∈ held, ∀ index, Inside (g.dims.map Int.ofNat) index →
      u.puts? name index = none) : Holds name (u :: past) held := by
  have dims : lastDims name (u :: past) = lastDims name past := by
    rw [lastDimsCons kept, other, Option.none_or]
  cases holds with
  | nothing never => exact .nothing (dims.trans never)
  | array made kind cells =>
      refine .array (dims.trans made) kind ?_
      intro index inside
      rw [cells index inside, contentCons kept other, apart _ rfl index inside]
      rfl

theorem Holds.made {first : Int} {rest : List Int} (good : GoodShape (first :: rest)) :
    Holds name (.dim name first rest :: past)
      (some (Grid.blank (isTextName name) ((first :: rest).map Int.toNat))) := by
  have makes : Update.makes? name (.dim name first rest) = some (first :: rest) := by
    simp [Update.makes?, good]
  have sizes : ((first :: rest).map Int.toNat).map Int.ofNat = first :: rest := by
    rw [List.map_map]
    refine (List.map_congr_left fun d member => ?_).trans (List.map_id _)
    exact Int.toNat_of_nonneg (Int.le_of_lt (good.1 d member))
  have dims : lastDims name (.dim name first rest :: past) = some (first :: rest) := by
    rw [lastDimsCons rfl, makes, Option.some_or]
  refine .array ?_ (Grid.blankKind _ _) ?_
  · exact dims.trans (congrArg some sizes.symm)
  · intro index inside
    rw [contentMade makes]
    exact Grid.blankAt inside

theorem Holds.put {g : Grid} {index : List Int} {v : Value} (holds : Holds name past (some g)) :
    Holds name (.put name index v :: past) (some (g.put index v)) := by
  obtain ⟨dims, texts⟩ := Grid.putShape g index v
  cases holds with
  | array made kind cells =>
      refine .array ?_ (texts.trans kind) ?_
      · rw [dims]
        exact made
      · intro other inside
        rw [dims] at inside
        rw [contentCons rfl rfl]
        by_cases same : index = other
        · subst same
          rw [Grid.putAt inside, kind]
          simp [Update.puts?]
        · rw [Grid.putElsewhere same, cells other inside]
          simp [Update.puts?, same]

theorem updateHolds (holds : Holds name past vs.arrays[name]?) :
    Holds name (u :: past) (vs.update u).arrays[name]? := by
  cases u with
  | clear => exact .nothing rfl
  | set n v => exact holds.unaffected rfl rfl fun _ _ _ _ => rfl
  | dim n first rest =>
      rw [updateDim]
      split
      · rename_i good
        rw [Std.TreeMap.getElem?_insert]
        by_cases same : n = name
        · subst same
          simpa using Holds.made good
        · simpa [same] using holds.unaffected rfl (by simp [Update.makes?, same]) fun _ _ _ _ => rfl
      · rename_i bad
        exact holds.unaffected rfl (by simp [Update.makes?, bad]) fun _ _ _ _ => rfl
  | put n index v =>
      rcases updatePut n index v with ⟨⟨g, made, _⟩, stored⟩ | ⟨nowhere, kept⟩
      · rw [stored, putElementArrays]
        by_cases same : n = name
        · subst same
          rw [if_pos rfl, made]
          exact (made ▸ holds).put
        · rw [if_neg same]
          exact holds.unaffected rfl rfl fun _ _ _ _ => by simp [Update.puts?, same]
      · rw [kept]
        refine holds.unaffected rfl rfl ?_
        -- a store that fails is at no place of the array
        intro g made other inside
        have apart : ¬ (n = name ∧ index = other) := by
          rintro ⟨rfl, rfl⟩
          exact nowhere ⟨g, made, inside⟩
        simp [Update.puts?, apart]

@[simp] theorem replayScalar (past : List Update) (name : String) :
    (replay past).get name = (lastSet name past).getD .zero := by
  induction past generalizing name with
  | nil => rfl
  | cons u past ih => exact updateScalar ih

theorem replayHolds (past : List Update) (name : String) :
    Holds name past (replay past).arrays[name]? := by
  induction past with
  | nil => exact .nothing rfl
  | cons u past ih => exact updateHolds ih

end Updates

section Frames

variable {vs : Variables} {name n : String} {index i : List Int} {v : Value} {u : Update}

theorem elementSame {ws : Variables} (same : ws.arrays[name]? = vs.arrays[name]?) :
    ws.element name index = vs.element name index := by
  simp only [element, array, same]

theorem elementPut (apart : n ≠ name ∨ i ≠ index ∨ ¬ vs.HasPlace n i) :
    (vs.putElement n i v).element name index = vs.element name index := by
  by_cases same : n = name
  · subst same
    have table : (vs.putElement n i v).arrays[n]? = (vs.arrays[n]?).map (·.put i v) :=
      putElementArrays.trans (if_pos rfl)
    cases held : vs.arrays[n]? with
    | none =>
        rw [held] at table
        exact elementSame (table.trans held.symm)
    | some g =>
        rw [held] at table
        have kept : (g.put i v).at? index = g.at? index := by
          by_cases equal : i = index
          · subst equal
            have outside : ¬ Inside (g.dims.map Int.ofNat) i := by
              intro inside
              rcases apart with other | other | nowhere
              · exact other rfl
              · exact other rfl
              · exact nowhere ⟨g, held, inside⟩
            have missing : offset? g.dims i = none := by
              rw [← offsetFound] at outside
              simpa using outside
            simp only [Grid.put, missing]
          · exact Grid.putElsewhere equal
        rw [elementOf table, elementOf held, kept, (Grid.putShape g i v).1]
  · refine elementSame ?_
    rw [putElementArrays, if_neg same]

theorem getUnaffected (kept : u ≠ .clear) (other : ∀ v, u ≠ .set name v) :
    (vs.update u).get name = vs.get name := by
  cases u with
  | clear => exact absurd rfl kept
  | set n v =>
      have apart : n ≠ name := fun same => other v (by rw [same])
      exact getSet.trans (if_neg apart)
  | dim n first rest =>
      rw [updateDim]
      split <;> rfl
  | put n i v =>
      rcases updatePut n i v with ⟨_, stored⟩ | ⟨_, same⟩
      · rw [stored]
        rfl
      · rw [same]

theorem elementUnaffected (kept : u ≠ .clear) (unmade : ∀ first rest, u ≠ .dim name first rest)
    (elsewhere : ∀ v, u ≠ .put name index v) :
    (vs.update u).element name index = vs.element name index := by
  cases u with
  | clear => exact absurd rfl kept
  | set n v => rfl
  | dim n first rest =>
      have apart : n ≠ name := fun same => unmade first rest (by rw [same])
      rw [updateDim]
      split
      · refine elementSame ?_
        simp [Std.TreeMap.getElem?_insert, apart]
      · rfl
  | put n i v =>
      have apart : n ≠ name ∨ i ≠ index ∨ ¬ vs.HasPlace n i := by
        by_contra same
        push Not at same
        exact elsewhere v (by rw [same.1, same.2.1])
      rcases updatePut n i v with ⟨_, stored⟩ | ⟨_, same⟩
      · rw [stored, elementPut apart]
      · rw [same]

end Frames

theorem replayElement (past : List Update) (name : String) (index : List Int) :
    lastDims name past = none ∧ (replay past).element name index = .error (.undimensioned name) ∨
      ∃ dims, lastDims name past = some dims ∧
        (Inside dims index ∧ (replay past).element name index = .ok (content name index past) ∨
          ¬ Inside dims index ∧
            ∃ f, (replay past).element name index = .error f ∧ f.OutOfRange) := by
  have holds := replayHolds past name
  cases held : (replay past).arrays[name]? with
  | none =>
      rw [held] at holds
      cases holds with
      | nothing never => exact .inl ⟨never, elementMissing held⟩
  | some g =>
      rw [held] at holds
      cases holds with
      | array made kind cells =>
          refine .inr ⟨_, made, ?_⟩
          rw [elementOf held]
          by_cases inside : Inside (g.dims.map Int.ofNat) index
          · refine .inl ⟨inside, ?_⟩
            rw [cells index inside]
          · refine .inr ⟨inside, ?_⟩
            have missing : g.at? index = none := by
              rw [← Grid.atFound] at inside
              simpa using inside
            rw [missing]
            by_cases rank : index.length = g.dims.length <;> simp [rank, Fault.OutOfRange]

theorem replayAnswers (past : List Update) : Answers (replay past) past where
  scalar := replayScalar past
  undimensioned name index := by
    rcases replayElement past name index with
      ⟨never, fault⟩ | ⟨dims, made, ⟨_, found⟩ | ⟨_, f, fault, range⟩⟩
    · exact iff_of_true fault never
    · rw [found, made]
      exact iff_of_false nofun nofun
    · rw [fault, made]
      refine iff_of_false ?_ nofun
      intro same
      cases same
      exact range
  outOfRange name index := by
    rcases replayElement past name index with
      ⟨never, fault⟩ | ⟨dims, made, ⟨inside, found⟩ | ⟨outside, range⟩⟩
    · rw [fault, never]
      simp [Fault.OutOfRange]
    · rw [found, made]
      simpa using inside
    · exact iff_of_true range ⟨dims, made, outside⟩
  element name index dims made inside := by
    rcases replayElement past name index with
      ⟨never, _⟩ | ⟨shape, made', ⟨_, found⟩ | ⟨outside, _⟩⟩
    · rw [made] at never
      cases never
    · exact found
    · rw [made] at made'
      cases made'
      exact absurd inside outside

/- The second part says what an update cannot touch: scalars and arrays are apart, names are, and so
are the elements of an array. A store that fails is also the same as none where it is made without
looking whether there is a place for it. -/
theorem variablesAreMap (past : List Update) :
    Answers (replay past) past ∧
    (∀ u name, u ≠ .clear → (∀ v, u ≠ .set name v) →
      (replay (u :: past)).get name = (replay past).get name) ∧
    (∀ u name index, u ≠ .clear → (∀ first rest, u ≠ .dim name first rest) →
      (∀ v, u ≠ .put name index v) →
      (replay (u :: past)).element name index = (replay past).element name index) ∧
    (∀ u f, (replay past).attempt u = .error f → replay (u :: past) = replay past) ∧
    ∀ n i v f, (replay past).setElement n i v = .error f → ∀ name index,
      ((replay past).putElement n i v).element name index = (replay past).element name index := by
  refine ⟨replayAnswers past, ?_, ?_, ?_, ?_⟩
  · intro u name kept other
    exact getUnaffected kept other
  · intro u name index kept unmade elsewhere
    exact elementUnaffected kept unmade elsewhere
  · intro u f failed
    simp only [replay, update, failed]
  · intro n i v f failed name index
    refine elementPut (.inr (.inr ?_))
    intro place
    rw [setElementOk.mpr ⟨place, rfl⟩] at failed
    cases failed

def scalarBesideArray : List Update :=
  [.put "A" [3, 1] (.number 8), .put "A" [2, 1] (.text "5"), .dim "A" 2 [2], .dim "A" 0 [],
    .put "A" [1] (.number 9), .dim "A" 4 [], .set "A" (.number 7)]

theorem scalarBesideArrayIsMap :
    (replay scalarBesideArray).get "A" = .number 7 ∧
      (replay scalarBesideArray).element "A" [1, 2] = .ok (.number 0) ∧
      (∃ f, (replay scalarBesideArray).element "A" [3, 1] = .error f ∧ f.OutOfRange) ∧
      (replay scalarBesideArray).element "B" [1] = .error (.undimensioned "B") ∧
      (replay (.set "B" .zero :: scalarBesideArray)).get "A" = .number 7 := by
  obtain ⟨answers, scalars, _⟩ := variablesAreMap scalarBesideArray
  have seven : (replay scalarBesideArray).get "A" = .number 7 := answers.scalar "A"
  have made : lastDims "A" scalarBesideArray = some [2, 2] := by decide +kernel
  refine ⟨seven, ?_, ?_, ?_, ?_⟩
  · refine (answers.element "A" [1, 2] [2, 2] made ?_).trans rfl
    exact .cons (by decide) (.cons (by decide) .nil)
  · refine (answers.outOfRange "A" [3, 1]).mpr ⟨[2, 2], made, ?_⟩
    simp [Inside]
  · exact (answers.undimensioned "B" [1]).mpr (by decide +kernel)
  · have other : ∀ v, Update.set "B" .zero ≠ .set "A" v := by simp
    exact (scalars (.set "B" .zero) "A" nofun other).trans seven

end Variables

end LineBasic
