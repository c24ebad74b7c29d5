import SoundEffect.Disk
import SoundEffect.Proofs.Text.Parts

namespace SoundEffect

theorem bind_eq_ok_iff {ε α β : Type} {first : Except ε α} {next : α → Except ε β} {result : β} :
    (first >>= next) = .ok result ↔ ∃ value, first = .ok value ∧ next value = .ok result := by
  cases first with
  | error fault =>
      constructor
      · intro impossible
        cases impossible
      · rintro ⟨_, impossible, -⟩
        cases impossible
  | ok value =>
      constructor
      · intro done
        exact ⟨value, rfl, done⟩
      · rintro ⟨_, ⟨⟩, done⟩
        exact done

namespace Disk

variable {disk disk' : Disk} {path : Path} {place target : Place} {bytes : List UInt8}

theorem lookup_replaced (nodes : List (Place × Node)) (place : Place) (node : Node)
    (target : Place) :
    (nodes.map fun entry => if entry.1 = place then (place, node) else entry).lookup target =
      if target = place then (nodes.lookup target).map fun _ => node else nodes.lookup target := by
  induction nodes with
  | nil => simp
  | cons entry rest ih =>
      rcases entry with ⟨key, old⟩
      rw [List.map_cons, List.lookup_cons]
      by_cases replaced : key = place
      · subst replaced
        rw [if_pos rfl, List.lookup_cons, ih]
        by_cases found : target = key
        · simp [found]
        · simp [found, beq_false_of_ne found]
      · rw [if_neg replaced, List.lookup_cons, ih]
        by_cases found : target = key
        · subst found
          simp [replaced]
        · simp [beq_false_of_ne found]

theorem lookup_put (disk : Disk) (place : Place) (node : Node) (target : Place) :
    (disk.put place node).nodes.lookup target =
      if target = place then some node else disk.nodes.lookup target := by
  rw [put]
  by_cases stored : (disk.nodes.lookup place).isSome
  · obtain ⟨old, found⟩ := Option.isSome_iff_exists.mp stored
    rw [if_pos stored, lookup_replaced]
    by_cases same : target = place
    · rw [if_pos same, if_pos same, same, found]
      rfl
    · rw [if_neg same, if_neg same]
  · have absent : disk.nodes.lookup place = none := Option.not_isSome_iff_eq_none.mp stored
    rw [if_neg stored, List.lookup_append, List.lookup_cons]
    by_cases same : target = place
    · subst same
      simp [absent]
    · rw [if_neg same, beq_false_of_ne same]
      exact Option.or_none

theorem node?_put {node : Node} (below : place ≠ []) :
    (disk.put place node).node? target =
      if target = place then some node else disk.node? target := by
  cases target with
  | nil =>
      rw [if_neg (Ne.symm below)]
      rfl
  | cons name names => exact lookup_put disk place node (name :: names)

structure Site (disk : Disk) (path : Path) (place : Place) : Prop where
  unended : path.getLast? ≠ some '/'
  resolved : disk.resolve path = .ok place
  free : disk.node? place ≠ some .directory

theorem Site.below (site : disk.Site path place) : place ≠ [] := by
  rintro rfl
  exact site.free rfl

theorem checkDirectory_eq_ok_iff {u : Unit} :
    disk.checkDirectory place = .ok u ↔ disk.node? place = some .directory := by
  rw [checkDirectory]
  cases disk.node? place with
  | none => simp
  | some node => cases node <;> simp

theorem step_nil_eq_ok_iff :
    disk.step place [] = .ok target ↔ disk.node? place = some .directory ∧ target = place := by
  rw [step, bind_eq_ok_iff]
  constructor
  · rintro ⟨_, checked, stayed⟩
    exact ⟨checkDirectory_eq_ok_iff.mp checked, (Except.ok.inj stayed).symm⟩
  · rintro ⟨isDirectory, rfl⟩
    exact ⟨(), checkDirectory_eq_ok_iff.mpr isDirectory, rfl⟩

theorem walk_concat (first : Place) (parents : List (List Char)) (name : List Char) :
    disk.walk first (parents ++ [name]) = (do
      let parent ← disk.walk first parents
      disk.step parent name) := by
  simp only [walk, List.foldlM_append, List.foldlM_cons, List.foldlM_nil, bind_pure]

theorem resolve_of_steps {parents : List (List Char)} {name : List Char}
    (steps : path.steps = parents ++ [name]) :
    disk.resolve path = (do
      let first ← disk.start path
      let parent ← disk.walk first parents
      disk.step parent name) := by
  simp only [resolve, steps, walk_concat]

theorem directory_of_slash (ended : path.getLast? = some '/')
    (resolved : disk.resolve path = .ok place) : disk.node? place = some .directory := by
  obtain ⟨before, rfl⟩ : ∃ before, path = before ++ ['/'] := by
    obtain ⟨before, whole⟩ := List.getLast?_eq_some_iff.mp ended
    exact ⟨before, whole⟩
  have steps : Path.steps (before ++ ['/']) = Path.steps before ++ [[]] :=
    Text.splitOn_append '/' before []
  rw [resolve_of_steps steps, bind_eq_ok_iff] at resolved
  obtain ⟨first, -, resolved⟩ := resolved
  obtain ⟨parent, -, stepped⟩ := bind_eq_ok_iff.mp resolved
  obtain ⟨isDirectory, rfl⟩ := step_nil_eq_ok_iff.mp stepped
  exact isDirectory

theorem steps_of_unended (nonempty : path ≠ []) (unended : path.getLast? ≠ some '/') :
    ∃ parents name, path.steps = parents.reverse ++ [name] ∧ stepsBack path = name :: parents := by
  obtain ⟨name, parents, back⟩ :=
    List.exists_cons_of_ne_nil (show path.steps.reverse ≠ [] by
      rw [Ne, List.reverse_eq_nil_iff]
      exact Text.splitOn_ne_nil '/' path)
  have solid : name ≠ [] := by
    rintro rfl
    apply Text.getLast?_splitOn nonempty unended
    rw [← List.head?_reverse]
    exact congrArg List.head? back
  refine ⟨parents, name, ?_, ?_⟩
  · rw [← List.reverse_reverse path.steps, back, List.reverse_cons]
  · rw [stepsBack, back, List.dropWhile_cons, if_neg (by simpa using solid)]

theorem start_ne_nil {first : Place} (started : disk.start path = .ok first) : path ≠ [] := by
  rintro rfl
  cases started

theorem check_then_step (disk : Disk) (parent : Place) (name : List Char)
    (next : Place → Except IoFault Disk) :
    (do
      disk.checkDirectory parent
      let place ← disk.step parent name
      next place) = (do
      let place ← disk.step parent name
      next place) := by
  cases checked : disk.checkDirectory parent with
  | error fault =>
      simp only [step, checked]
      rfl
  | ok _ => rfl

theorem write_of_unended (unended : path.getLast? ≠ some '/') :
    disk.write path bytes = (do
      let place ← disk.resolve path
      match disk.node? place with
      | some .directory => throw .isDirectory
      | _ => return disk.put place (.file bytes)) := by
  cases started : disk.start path with
  | error fault =>
      simp only [write, resolve, started]
      rfl
  | ok first =>
      obtain ⟨parents, name, steps, back⟩ := steps_of_unended (start_ne_nil started) unended
      rw [resolve_of_steps steps, write, started]
      simp only [back, if_neg unended]
      cases walked : disk.walk first parents.reverse with
      | error fault =>
          simp only [bind, Except.bind, walked]
      | ok parent =>
          -- A step checks its directory again, so the check in front of it decides nothing.
          have checked := check_then_step disk parent name fun place =>
            match disk.node? place with
            | some .directory => throw .isDirectory
            | _ => return disk.put place (.file bytes)
          simp only [bind, Except.bind, walked] at checked ⊢
          exact checked

theorem unended_of_write (written : disk.write path bytes = .ok disk') :
    path.getLast? ≠ some '/' := by
  intro ended
  obtain ⟨first, -, written⟩ := bind_eq_ok_iff.mp written
  cases back : stepsBack path with
  | nil =>
      simp only [back] at written
      cases written
  | cons name parents =>
      simp only [back] at written
      obtain ⟨_, -, written⟩ := bind_eq_ok_iff.mp written
      obtain ⟨_, -, written⟩ := bind_eq_ok_iff.mp written
      rw [if_pos ended] at written
      cases written

theorem write_eq_ok_iff :
    disk.write path bytes = .ok disk' ↔
      ∃ place, disk.Site path place ∧ disk' = disk.put place (.file bytes) := by
  constructor
  · intro written
    have unended := unended_of_write written
    rw [write_of_unended unended] at written
    obtain ⟨place, resolved, written⟩ := bind_eq_ok_iff.mp written
    refine ⟨place, ⟨unended, resolved, ?_⟩, ?_⟩
    · intro isDirectory
      simp only [isDirectory] at written
      cases written
    · split at written
      · cases written
      · exact (Except.ok.inj written).symm
  · rintro ⟨place, site, rfl⟩
    rw [write_of_unended site.unended, site.resolved]
    have free := site.free
    cases kept : disk.node? place with
    | none => simp [kept, bind, Except.bind, pure, Except.pure]
    | some node =>
        cases node with
        | file _ => simp [kept, bind, Except.bind, pure, Except.pure]
        | directory => exact absurd kept free

theorem read_eq_ok_iff :
    disk.read path = .ok bytes ↔
      ∃ place, disk.Site path place ∧ disk.node? place = some (.file bytes) := by
  constructor
  · intro content
    obtain ⟨place, resolved, content⟩ := bind_eq_ok_iff.mp content
    cases kept : disk.node? place with
    | none =>
        simp only [kept] at content
        cases content
    | some node =>
        cases node with
        | directory =>
            simp only [kept] at content
            cases content
        | file held =>
            simp only [kept] at content
            have same : held = bytes := Except.ok.inj content
            subst same
            refine ⟨place, ⟨?_, resolved, ?_⟩, kept⟩
            · intro ended
              rw [directory_of_slash ended resolved] at kept
              cases kept
            · simp [kept]
  · rintro ⟨place, site, kept⟩
    rw [read, site.resolved]
    simp only [bind, Except.bind, kept]

section Put

variable (free : disk.node? place ≠ some .directory)
include free

theorem node?_put_directory_iff :
    (disk.put place (.file bytes)).node? target = some .directory ↔
      disk.node? target = some .directory := by
  have below : place ≠ [] := by
    rintro rfl
    exact free rfl
  rw [node?_put below]
  by_cases same : target = place
  · subst same
    simp [free]
  · rw [if_neg same]

-- A walk asks only which places are directories, and putting a file changes no answer.
theorem step_put {name : List Char} {after : Place} :
    (disk.put place (.file bytes)).step target name = .ok after ↔
      disk.step target name = .ok after := by
  rw [step, step, bind_eq_ok_iff, bind_eq_ok_iff]
  simp only [checkDirectory_eq_ok_iff, node?_put_directory_iff free]

theorem walk_put {names : List (List Char)} {after : Place} :
    (disk.put place (.file bytes)).walk target names = .ok after ↔
      disk.walk target names = .ok after := by
  induction names generalizing target with
  | nil => rfl
  | cons name names ih =>
      simp only [walk, List.foldlM_cons] at ih ⊢
      rw [bind_eq_ok_iff, bind_eq_ok_iff]
      simp only [step_put free, ih]

theorem resolve_put :
    (disk.put place (.file bytes)).resolve path = .ok target ↔ disk.resolve path = .ok target := by
  have started : (disk.put place (.file bytes)).start path = disk.start path := by
    have home : (disk.put place (.file bytes)).home = disk.home := by
      rw [put]
      split <;> rfl
    rw [start, start, home]
  rw [resolve, resolve, bind_eq_ok_iff, bind_eq_ok_iff, started]
  simp only [walk_put free]

theorem site_put :
    (disk.put place (.file bytes)).Site path target ↔ disk.Site path target := by
  constructor
  · rintro ⟨unended, resolved, kept⟩
    exact ⟨unended, (resolve_put free).mp resolved, mt (node?_put_directory_iff free).mpr kept⟩
  · rintro ⟨unended, resolved, kept⟩
    exact ⟨unended, (resolve_put free).mpr resolved, mt (node?_put_directory_iff free).mp kept⟩

end Put

def Writable (disk : Disk) (path : Path) : Prop :=
  ∀ bytes, ∃ disk', disk.write path bytes = .ok disk'

theorem Site.writable (site : disk.Site path place) : disk.Writable path :=
  fun _ => ⟨_, write_eq_ok_iff.mpr ⟨place, site, rfl⟩⟩

theorem Writable.site (writable : disk.Writable path) : ∃ place, disk.Site path place := by
  obtain ⟨disk', written⟩ := writable []
  obtain ⟨place, site, -⟩ := write_eq_ok_iff.mp written
  exact ⟨place, site⟩

theorem writable_of_read (content : disk.read path = .ok bytes) : disk.Writable path := by
  obtain ⟨place, site, -⟩ := read_eq_ok_iff.mp content
  exact site.writable

theorem read_of_write (written : disk.write path bytes = .ok disk') :
    disk'.read path = .ok bytes := by
  obtain ⟨place, site, rfl⟩ := write_eq_ok_iff.mp written
  refine read_eq_ok_iff.mpr ⟨place, (site_put site.free).mpr site, ?_⟩
  rw [node?_put site.below, if_pos rfl]

theorem Writable.of_write {path' : Path} (writable : disk.Writable path')
    (written : disk.write path bytes = .ok disk') : disk'.Writable path' := by
  obtain ⟨place, site, rfl⟩ := write_eq_ok_iff.mp written
  obtain ⟨place', site'⟩ := writable.site
  exact ((site_put site.free).mpr site').writable

end Disk

end SoundEffect
