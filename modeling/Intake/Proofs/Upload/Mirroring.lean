import Intake.Proofs.FileSystem.Mirror
import Intake.Proofs.Upload.Saving

/-!
# Saves beneath equal trees

Behind two base directories that mirror each other an artifact is saved alike: the same file is put
beneath both (`persist_alike`, `saveTo_alike`), or both saves fail, also if their writes break off.
The failures may hold different paths, but a client sees of a path no more than the name that it
ends in, and that is the same (`Failure.LooksLike`).
-/

namespace Intake

/-! ## What a client sees -/

/-- A client cannot tell two failures apart. -/
structure Failure.LooksLike (f g : Failure) : Prop where
  status : f.status = g.status
  message : f.userMessage = g.userMessage

theorem Failure.LooksLike.refl (f : Failure) : f.LooksLike f :=
  ⟨rfl, rfl⟩

theorem Failure.destinationExists_looksLike {p q : FilePath} (name : p.fileName = q.fileName) :
    (Failure.destinationExists p).LooksLike (.destinationExists q) :=
  ⟨rfl, by rw [userMessage, userMessage, name]⟩

/-- A refused create looks the same wherever the path was. -/
theorem refusal_looksLike {p q : FilePath} (name : p.fileName = q.fileName) (fault : IoFault) :
    (refusal p fault).LooksLike (refusal q fault) := by
  cases fault with
  | alreadyExists => exact Failure.destinationExists_looksLike name
  | _ => exact ⟨rfl, rfl⟩

/-- Two results fail for a client alike, or give what `related` holds of. -/
inductive Alike {α β : Type} (related : α → β → Prop) :
    Except Failure α → Except Failure β → Prop
  | failed {f g : Failure} (looks : f.LooksLike g) : Alike related (.error f) (.error g)
  | done {a : α} {b : β} (holds : related a b) : Alike related (.ok a) (.ok b)

/-- What is made of related results alike is alike. -/
theorem Alike.map {α β γ δ : Type} {related : α → β → Prop} {other : γ → δ → Prop}
    {left : Except Failure α} {right : Except Failure β} {f : α → γ} {g : β → δ}
    (alike : Alike related left right) (keeps : ∀ a b, related a b → other (f a) (g b)) :
    Alike other (left.map f) (right.map g) := by
  cases alike with
  | failed looks => exact .failed looks
  | done holds => exact .done (keeps _ _ holds)

/-! ## Saves -/

namespace FileSystem.Mirrors

variable {fs gs : FileSystem} {base other tail : FilePath} {home house : Location}
  (mirrors : fs.Mirrors base home gs other house)
include mirrors

/-- Saves behind two directories that mirror each other end alike, and leave the directories so. -/
theorem persist_alike (artifact : Artifact) (lands : tail.Lands)
    (reach : SameReach (base.join tail) (other.join tail)) (broken : Option BrokenWrite) :
    (persist fs artifact (base.join tail) broken).1.Mirrors base home
        (persist gs artifact (other.join tail) broken).1 other house ∧
      Alike (fun _ _ => True) (persist fs artifact (base.join tail) broken).2.result
        (persist gs artifact (other.join tail) broken).2.result := by
  obtain ⟨name, named⟩ := lands.named
  have names : (base.join tail).fileName = (other.join tail).fileName := by
    rw [FilePath.fileName_join base lands.relative named,
      FilePath.fileName_join other lands.relative named]
  have seen := mirrors.tryExists_eq lands reach
  by_cases there : fs.tryExists (base.join tail) = .ok true
  · rcases @persist_of_there fs artifact _ broken there with ⟨same, result⟩
    rcases @persist_of_there gs artifact _ broken (seen ▸ there) with ⟨same', result'⟩
    rw [same, same', result, result']
    exact ⟨mirrors, .failed (Failure.destinationExists_looksLike names)⟩
  · rcases mirrors.createNew_alike lands reach with
      ⟨fault, refused, refused'⟩ | ⟨below, name, here, free, created, created'⟩
    · rcases @persist_of_refused fs artifact _ _ broken there refused with ⟨same, result⟩
      rcases @persist_of_refused gs artifact _ _ broken (seen ▸ there) refused' with
        ⟨same', result'⟩
      rw [same, same', result, result']
      exact ⟨mirrors, .failed (refusal_looksLike names fault)⟩
    · cases broken with
      | some write =>
        rcases @persist_of_broken fs _ artifact _ _ created write with ⟨same, result⟩
        rcases @persist_of_broken gs _ artifact _ _ created' write with ⟨same', result'⟩
        rw [same, same', result, result']
        exact ⟨mirrors, .failed ⟨rfl, rfl⟩⟩
      | none =>
        rcases @persist_of_created fs _ artifact _ _ created with ⟨same, result⟩
        rcases @persist_of_created gs _ artifact _ _ created' with ⟨same', result'⟩
        rw [same, same', result, result', setContent_insert, setContent_insert]
        exact ⟨mirrors.insert here free, .done trivial⟩

/-- An artifact is saved alike beneath both directories. -/
theorem saveTo_alike {artifact : Artifact} {destination : Destination} (lands : tail.Lands)
    (reach : SameReach (base.join tail) (other.join tail))
    (located : Upload.locate ⟨artifact, base⟩ destination = .ok (base.join tail))
    (located' : Upload.locate ⟨artifact, other⟩ destination = .ok (other.join tail))
    (broken : Option BrokenWrite) :
    (Upload.saveTo ⟨artifact, base⟩ fs destination broken).1.Mirrors base home
        (Upload.saveTo ⟨artifact, other⟩ gs destination broken).1 other house ∧
      Alike (fun p q : FilePath => p.fileName = q.fileName)
        (Upload.saveTo ⟨artifact, base⟩ fs destination broken).2.result
        (Upload.saveTo ⟨artifact, other⟩ gs destination broken).2.result := by
  rcases Upload.saveTo_of_located fs located broken with ⟨after, result⟩
  rcases Upload.saveTo_of_located gs located' broken with ⟨after', result'⟩
  rcases mirrors.persist_alike artifact lands reach broken with ⟨again, alike⟩
  rcases lands.named with ⟨name, named⟩
  rw [after, after', result, result']
  refine ⟨again, alike.map fun _ _ _ => ?_⟩
  rw [FilePath.fileName_join base lands.relative named,
    FilePath.fileName_join other lands.relative named]

end FileSystem.Mirrors

end Intake
