import CardKeeper.Proofs.Audit.Streamed

/-!
# Paths as seen from a card

Reports give paths as seen from the top folder of the card.  Whatever the text of the root is, what
was put behind it comes back byte by byte, and a path elsewhere is given as it is.  So no path that
an audit reports repeats the root: `relative_joined`.
-/

namespace CardKeeper
namespace Card

open Audit (gamesName gamePath)

/-- Names put behind the root one after the other come back, joined by slashes.  A path that does
not start with the components of the root stays as it is.  What an audit tells to be missing, be it
in a report or before the audit fails, is such a path of names below the root, without the root. -/
theorem relative_joined (card : Card) :
    (∀ names, names ≠ [] → (∀ name ∈ names, Path.Names name) →
      (card.relative (card.root.below names)).bytes = [Path.slash].intercalate names) ∧
    (∀ path : Path, ¬ card.root.components <+: path.components → card.relative path = path) ∧
    ∀ volume rules,
      (∀ result, Audit.report volume card rules = .ok result →
        result.missing = Audit.streamed volume card rules) ∧
      ∀ path ∈ Audit.streamed volume card rules, ∃ name entry : Name,
        path = card.relative (card.root.below [gamesName.bytes, name.bytes, entry.bytes]) ∧
          path.bytes = [Path.slash].intercalate [gamesName.bytes, name.bytes, entry.bytes] := by
  refine ⟨fun names some proper => ?_, fun path apart => Path.relativeTo_of_not_prefix apart,
    fun volume rules => ⟨fun result => Audit.missing_eq_streamed, fun path member => ?_⟩⟩
  · rw [relative, Path.relativeTo_below card.root proper some]
    rfl
  · obtain ⟨-, name, -, entry, -, -, -, -, rfl⟩ := Audit.of_mem_streamed member
    exact ⟨name, entry, (Audit.relative_entry card name entry).symm, rfl⟩

/-- Names that are no words: three dots, a zero byte and a dash. -/
def oddNames : List Bytes := [[Path.dot, Path.dot, Path.dot], [0], [0x2D]]

theorem names_oddNames : ∀ name ∈ oddNames, Path.Names name := by
  simp only [oddNames, List.forall_mem_cons]
  exact ⟨⟨by decide, by decide, by decide⟩, ⟨by decide, by decide, by decide⟩,
    ⟨by decide, by decide, by decide⟩, nofun⟩

/-- Odd names come back from behind a root with filler in it, a root is no prefix of a path whose
first name only starts like it, and an audit tells of a game without the root. -/
theorem relative_oddNames :
    (oddNames ≠ [] ∧ ∀ name ∈ oddNames, Path.Names name) ∧
      (relative ⟨.ofText "./sd//."⟩ ((Path.ofText "./sd//.").below oddNames)).bytes =
        [Path.slash].intercalate oddNames ∧
      ¬ (Path.ofText "/sd").components <+: (Path.ofText "/sdcard/x").components ∧
      relative ⟨.ofText "/sd"⟩ (.ofText "/sdcard/x") = .ofText "/sdcard/x" ∧
      Audit.report Audit.smallCard ⟨.ofText "."⟩ .standard =
        .ok ⟨[gamePath Audit.gameBoy Audit.gameFile], ["FC"], 1⟩ ∧
      gamePath Audit.gameBoy Audit.gameFile ∈
        Audit.streamed Audit.smallCard ⟨.ofText "."⟩ .standard ∧
      ∃ name entry : Name, (gamePath Audit.gameBoy Audit.gameFile).bytes =
        [Path.slash].intercalate [gamesName.bytes, name.bytes, entry.bytes] := by
  have some : oddNames ≠ [] := List.cons_ne_nil _ _
  have apart : ¬ (Path.ofText "/sd").components <+: (Path.ofText "/sdcard/x").components := by
    decide
  have reported : Audit.report Audit.smallCard ⟨.ofText "."⟩ .standard =
      .ok ⟨[gamePath Audit.gameBoy Audit.gameFile], ["FC"], 1⟩ := by cbv
  obtain ⟨joined, -, -⟩ := relative_joined ⟨.ofText "./sd//."⟩
  obtain ⟨-, outside, -⟩ := relative_joined ⟨.ofText "/sd"⟩
  obtain ⟨-, -, audits⟩ := relative_joined ⟨.ofText "."⟩
  obtain ⟨lists, shows⟩ := audits Audit.smallCard .standard
  have told : gamePath Audit.gameBoy Audit.gameFile ∈
      Audit.streamed Audit.smallCard ⟨.ofText "."⟩ .standard := by
    rw [← lists _ reported]
    exact List.mem_singleton_self _
  obtain ⟨name, entry, -, bytes⟩ := shows _ told
  exact ⟨⟨some, names_oddNames⟩, joined oddNames some names_oddNames, apart, outside _ apart,
    reported, told, name, entry, bytes⟩

end Card
end CardKeeper
