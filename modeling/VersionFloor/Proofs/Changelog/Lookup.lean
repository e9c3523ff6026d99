import VersionFloor.Proofs.Changelog.Rows
import VersionFloor.Proofs.Glob.Plain

set_option autoImplicit false

namespace VersionFloor

namespace Table

variable {α : Type}

/-- Of entries with distinct names, those under one name are the first of them. -/
theorem filter_name_eq {entries : List (String × α)} (distinct : (entries.map (·.1)).Nodup)
    (name : String) :
    entries.filter (·.1 = name) = ((entries.find? (·.1 = name)).map (·.2)).toList.map
      (Prod.mk name) := by
  induction entries with
  | nil => rfl
  | cons entry rest ih =>
    obtain ⟨other, value⟩ := entry
    rw [List.map_cons, List.nodup_cons] at distinct
    by_cases here : other = name
    · subst here
      have alone : rest.filter (·.1 = other) = [] := by
        apply List.filter_eq_nil_iff.2
        intro later held same
        exact distinct.1 (List.mem_map.2 ⟨later, held, of_decide_eq_true same⟩)
      simp [alone]
    · simp [here, ih distinct.2]

/-- What a table keeps of one name is what is looked up under it. -/
theorem entries_filter_name (t : Table α) (name : String) :
    (t.filter fun other _ => other = name).entries = (t.get? name).toList.map (Prod.mk name) :=
  filter_name_eq t.nodup name

end Table

namespace Changelog

theorem find_plain {name : String} (plain : Glob.Plain name.toList) (changelog : Changelog)
    (version : Option Version) (action : Option Action) :
    changelog.find name version action =
      .ok (changelog.filter fun other r => decide (other = name) && isWanted version action r) := by
  have only : ∀ other, Glob.accepts ⟨Glob.chars name.toList⟩ other = decide (other = name) := by
    intro other
    rw [Bool.eq_iff_iff, Glob.accepts_chars_iff, decide_eq_true_eq]
  rw [find_of_compiled (Glob.compile_plain plain)]
  simp only [only]

/--
A search for a name without wildcards, whatever else is in the name, succeeds and finds what is
looked up under it: that entry alone, or nothing. A search for the star finds all entries in their
order.
-/
theorem plain_search_is_lookup (changelog : Changelog) :
    (∀ name : String, Glob.Plain name.toList →
      ∃ found, changelog.find name none none = .ok found ∧
        found.entries = (changelog.get? name).toList.map (Prod.mk name)) ∧
    ∃ all, changelog.find "*" none none = .ok all ∧ all.entries = changelog.entries := by
  refine ⟨?_, changelog, changelog.find_star, rfl⟩
  intro name plain
  have named : changelog.find name none none =
      .ok (changelog.filter fun other _ => other = name) := by
    rw [find_plain plain]
    congr
    funext other r
    exact Bool.and_true _
  exact ⟨_, named, changelog.entries_filter_name name⟩

/--
Names that differ in case only, and one with a slash, a space, a letter beyond ASCII and a closing
bracket.
-/
def oddNames : Changelog :=
  Table.ofList [("Queue", { removed := some ⟨5, some 1⟩ }),
    ("a/b ü].c", { added := some ⟨7, some 1⟩ }),
    ("queue", { added := some ⟨5, some 2⟩ })]

theorem oddNames_search :
    (∃ found, oddNames.find "a/b ü].c" none none = .ok found ∧
      found.entries = [("a/b ü].c", { added := some ⟨7, some 1⟩ })]) ∧
    (∃ found, oddNames.find "QUEUE" none none = .ok found ∧ found.entries = []) ∧
    ∃ all, oddNames.find "*" none none = .ok all ∧ all.names = ["Queue", "a/b ü].c", "queue"] := by
  obtain ⟨search, all, searched, same⟩ := plain_search_is_lookup oddNames
  refine ⟨?_, ?_, all, searched, ?_⟩
  · obtain ⟨found, done, entries⟩ := search "a/b ü].c" (by decide +kernel)
    exact ⟨found, done, entries.trans (by decide +kernel)⟩
  · obtain ⟨found, done, entries⟩ := search "QUEUE" (by decide +kernel)
    exact ⟨found, done, entries.trans (by decide +kernel)⟩
  · rw [Table.names, same]
    decide +kernel

end Changelog

end VersionFloor
