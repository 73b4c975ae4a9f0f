import ArmScript.Robot.Table

set_option autoImplicit false

namespace ArmScript.RobotTable

def Distinct (t : RobotTable) : Prop := (t.robots.map Robot.name).Nodup

theorem distinct_empty : empty.Distinct := List.nodup_nil

theorem robot?_eq_none_iff {t : RobotTable} {name : String} :
    t.robot? name = none ↔ name ∉ t.robots.map Robot.name := by
  simp only [robot?, List.find?_eq_none, List.mem_map, not_exists, not_and, beq_iff_eq]

section Declare
variable {t declared : RobotTable} {r : Robot}

theorem Distinct.declare (h : t.Distinct) (hd : t.declare r = .ok declared) : declared.Distinct := by
  unfold RobotTable.declare at hd
  split at hd
  · cases hd
  · next fresh =>
    cases hd
    have unused : r.name ∉ t.robots.map Robot.name := robot?_eq_none_iff.mp fresh
    rw [Distinct, List.map_append, List.nodup_append]
    refine ⟨h, by simp, fun name hn other ho => ?_⟩
    rw [List.mem_singleton.mp ho]
    exact fun same => unused (same ▸ hn)

theorem duplicate_of_declare {d : DuplicateRobot} (hd : t.declare r = .error d) : d.duplicate = r := by
  unfold RobotTable.declare at hd
  split at hd
  · cases hd
    rfl
  · cases hd

end Declare

theorem duplicatesFrom_eq_nil {seen rest : List Robot} (h : ((seen ++ rest).map Robot.name).Nodup) :
    duplicatesFrom seen rest = [] := by
  induction rest generalizing seen with
  | nil => rfl
  | cons r rest ih =>
    have fresh : r.name ∉ seen.map Robot.name := by
      rw [List.map_append, List.nodup_append] at h
      exact fun used => h.2.2 _ used _ (List.mem_cons_self) rfl
    have unseen : seen.find? (fun s => s.name == r.name) = none := robot?_eq_none_iff (t := ⟨seen⟩).mpr fresh
    rw [duplicatesFrom, unseen]
    exact ih (by simpa using h)

theorem Distinct.duplicates_eq_nil {t : RobotTable} (h : t.Distinct) : t.duplicates = [] :=
  duplicatesFrom_eq_nil h

end ArmScript.RobotTable
