import HandleCache.World.Basic

/-!
# Worlds grow

Classes are loaded, hidden and unloaded, and members that are run make objects and change what they
hold. Nothing of this takes a class or an object away, puts another class in its place, or changes
its members or the class above it. So a member stays the one that was found, and an object that is
an instance of a class is one ever after.

## Contents

- `WorldClass.shape`: what of a class never changes
- `World.Grows`: one world is a later state of another

## Main statements

- `World.Grows.member?_eq`: the member behind a handle stays the same
- `World.Grows.isInstance`: an instance stays one
- `World.grows_apply`, `World.grows_run`, `World.grows_make`: whatever happens, a world grows
- `World.made_make`: an object that is made is new, and an instance of its class
-/

namespace HandleCache

/-- What of a class never changes: its name, the name of the class above it, and its members. -/
def WorldClass.shape (c : WorldClass) : String × Option String × List WorldMember :=
  (c.name, c.parent, c.members)

namespace World

/-- The classes and objects of a world are still there in another, in their places. -/
structure Grows (w w' : World) : Prop where
  classes : w.classes.map (·.shape) <+: w'.classes.map (·.shape)
  /-- Objects stay what they are instances of, whatever they hold. -/
  objects : w.objects.map (·.owner) <+: w'.objects.map (·.owner)

theorem Grows.refl (w : World) : w.Grows w := ⟨List.prefix_refl _, List.prefix_refl _⟩

theorem Grows.trans {w w' w'' : World} (h : w.Grows w') (h' : w'.Grows w'') : w.Grows w'' :=
  ⟨h.classes.trans h'.classes, h.objects.trans h'.objects⟩

/-! ## What stays -/

section

variable {w w' : World} {c : Nat} {name : String}

theorem Grows.class_at {info : WorldClass} (h : w.Grows w') (at_c : w.classes[c]? = some info) :
    ∃ info', w'.classes[c]? = some info' ∧ info'.shape = info.shape := by
  obtain ⟨inside, rfl⟩ := List.getElem?_eq_some_iff.mp at_c
  have later := List.prefix_iff_getElem?.mp h.classes c (by simpa using inside)
  rw [List.getElem?_map, List.getElem_map] at later
  exact Option.map_eq_some_iff.mp later

/-- A class that was the first of its name is so ever after; later ones come behind it. -/
theorem Grows.classNamed?_eq (h : w.Grows w') (named : w.classNamed? name = some c) :
    w'.classNamed? name = some c := by
  have byShape (v : World) :
      v.classNamed? name = (v.classes.map (·.shape)).findIdx? (·.1 == name) := by
    rw [List.findIdx?_map]
    rfl
  rw [byShape] at named ⊢
  exact h.classes.findIdx?_eq_some named

theorem Grows.parent?_eq {p : Nat} (h : w.Grows w') (above : w.parent? c = some p) :
    w'.parent? c = some p := by
  unfold parent? at above ⊢
  obtain ⟨info, at_c, above⟩ := Option.bind_eq_some_iff.mp above
  obtain ⟨name, declared, named⟩ := Option.bind_eq_some_iff.mp above
  obtain ⟨info', at_c', shape⟩ := h.class_at at_c
  have same : info'.parent = info.parent := by
    simp only [WorldClass.shape, Prod.mk.injEq] at shape
    exact shape.2.1
  rw [at_c']
  show (info'.parent.bind fun name => w'.classNamed? name) = some p
  rw [same, declared]
  exact h.classNamed?_eq named

/-- A class above another stays above it, and more may come above both. -/
theorem Grows.mem_lineageWithin {n k x : Nat} (h : w.Grows w') (more : n ≤ k)
    (mem : x ∈ w.lineageWithin n c) : x ∈ w'.lineageWithin k c := by
  -- By induction on the steps upwards: each leads to the same class in the later world.
  induction n generalizing k c with
  | zero =>
    obtain rfl : x = c := by simpa [lineageWithin] using mem
    cases k <;> simp [lineageWithin]
  | succ n ih =>
    obtain ⟨k, rfl⟩ : ∃ j, k = j + 1 := ⟨k - 1, by omega⟩
    cases above : w.parent? c with
    | none =>
      obtain rfl : x = c := by simpa [lineageWithin, above] using mem
      simp [lineageWithin]
    | some p =>
      simp only [lineageWithin, above, h.parent?_eq above, Option.map_some, Option.getD_some,
        List.mem_cons] at mem ⊢
      exact mem.imp_right (ih (by omega))

theorem Grows.mem_lineage {x : Nat} (h : w.Grows w') (mem : x ∈ w.lineage c) :
    x ∈ w'.lineage c := by
  apply h.mem_lineageWithin _ mem
  simpa using h.classes.length_le

/-- An object is of the class that it was made of. -/
theorem Grows.owner_at {i : Nat} {x : WorldObject} (h : w.Grows w')
    (at_i : w.objects[i]? = some x) :
    ∃ x', w'.objects[i]? = some x' ∧ x'.owner = x.owner := by
  obtain ⟨inside, rfl⟩ := List.getElem?_eq_some_iff.mp at_i
  have later := List.prefix_iff_getElem?.mp h.objects i (by simpa using inside)
  rw [List.getElem?_map, List.getElem_map] at later
  exact Option.map_eq_some_iff.mp later

theorem isInstance_some_iff {i : Nat} : w.isInstance (some i) c = true ↔
    ∃ x, w.objects[i]? = some x ∧ c ∈ w.lineage x.owner := by
  cases at_i : w.objects[i]? with
  | none => simp [isInstance, objectLineage, at_i]
  | some x => simp [isInstance, objectLineage, at_i]

/-- An instance of a class is one in every later world. -/
theorem Grows.isInstance {i : Nat} (h : w.Grows w') (is : w.isInstance (some i) c = true) :
    w'.isInstance (some i) c = true := by
  obtain ⟨x, at_i, mem⟩ := isInstance_some_iff.mp is
  obtain ⟨x', at_i', owner⟩ := h.owner_at at_i
  apply isInstance_some_iff.mpr
  exact ⟨x', at_i', owner ▸ h.mem_lineage mem⟩

theorem Grows.member?_eq {id : MemberId} {x : WorldMember} (h : w.Grows w')
    (there : w.member? id = some x) : w'.member? id = some x := by
  obtain ⟨info, at_owner, at_index⟩ := Option.bind_eq_some_iff.mp there
  obtain ⟨info', at_owner', shape⟩ := h.class_at at_owner
  have same : info'.members = info.members := by
    simp only [WorldClass.shape, Prod.mk.injEq] at shape
    exact shape.2.2
  rw [member?, at_owner', Option.bind_some, same]
  exact at_index

end

/-! ## What happens -/

section

variable (w : World)

theorem grows_changeClasses (name : String) (f : WorldClass → WorldClass)
    (kept : ∀ c, (f c).shape = c.shape) : w.Grows (w.changeClasses name f) := by
  have same : (w.changeClasses name f).classes.map (·.shape) = w.classes.map (·.shape) := by
    simp only [changeClasses, List.map_map]
    apply List.map_congr_left
    intro c _
    simp only [Function.comp_apply]
    split
    · exact kept c
    · rfl
  exact ⟨same ▸ List.prefix_refl _, List.prefix_refl _⟩

theorem grows_apply (change : Change) : w.Grows (w.apply change) := by
  cases change with
  | load c => exact ⟨by simp [apply, addClass], List.prefix_refl _⟩
  | hide name | reveal name | unload name => exact w.grows_changeClasses name _ fun _ => rfl

theorem grows_allocate (c : Nat) (held : Value ObjectId) : w.Grows (w.allocate c held).2 :=
  ⟨List.prefix_refl _, by simp [allocate]⟩

theorem grows_setHeld (o : ObjectId) (v : Value ObjectId) : w.Grows (w.setHeld o v) := by
  cases o with
  | none => exact Grows.refl w
  | some i =>
    -- Of the object that is changed only what it holds is another.
    have same : (w.setHeld (some i) v).objects.map (·.owner) = w.objects.map (·.owner) := by
      apply List.ext_getElem?
      intro j
      simp only [setHeld, List.getElem?_map, List.getElem?_modify]
      split <;> cases w.objects[j]? <;> rfl
    exact ⟨List.prefix_refl _, same ▸ List.prefix_refl _⟩

theorem grows_behave (b : Behavior) (o : ObjectId) (args : List (Value ObjectId)) :
    w.Grows (w.behave b o args).2 := by
  cases b with
  | create name =>
    simp only [behave]
    split
    · exact w.grows_allocate _ _
    · exact Grows.refl w
  | hold =>
    simp only [behave]
    split
    · exact w.grows_setHeld o _
    · exact Grows.refl w
  | add =>
    simp only [behave]
    split
    · split
      · exact w.grows_setHeld o _
      · exact Grows.refl w
    · exact Grows.refl w
    · exact Grows.refl w
  | _ => exact Grows.refl w

theorem grows_run (id : MemberId) (o : ObjectId) (args : List (Value ObjectId)) (k : Kind) :
    w.Grows (w.run id o args k).2 :=
  w.grows_behave _ o args

theorem grows_make (c : Nat) (id : MemberId) (args : List (Value ObjectId)) :
    w.Grows (w.make c id args).2 := by
  unfold make
  split
  · exact Grows.refl w
  · next behavior =>
    have run := w.grows_behave (w.behaviorOf id) none args
    split
    · next ran =>
      rw [ran] at run
      exact run
    · next w' ran =>
      rw [ran] at run
      exact run.trans (w'.grows_allocate c _)

end

/-- An object that is made of a class is a new one, and an instance of the class. -/
theorem made_make {w w' : World} {c i : Nat} {id : MemberId} {args : List (Value ObjectId)}
    (made : w.make c id args = (.ok (some i), w')) :
    w.objects.length ≤ i ∧ w'.isInstance (some i) c = true := by
  unfold make at made
  split at made
  · cases made
  · next behavior =>
    have grown := w.grows_behave (w.behaviorOf id) none args
    split at made
    · cases made
    · next between ran =>
      rw [ran] at grown
      cases made
      constructor
      · simpa using grown.objects.length_le
      · apply isInstance_some_iff.mpr
        refine ⟨⟨c, args.headD (.int 0)⟩, ?_, mem_lineage_self _ c⟩
        simp

end World

end HandleCache
