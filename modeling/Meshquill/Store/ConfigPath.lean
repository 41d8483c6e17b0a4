import Meshquill.BigEndian
import Meshquill.Domain
import Meshquill.SelfDelimiting
import Meshquill.Text

/-!
# The normal form of a config path

`normalized_config_path_digest` walks over the components of a path with a stack of parts, and
hashes the result as tagged, length-delimited bytes. The components are those that
`Path::components` yields; `unixComponents` says what they are for a Unix path. SHA-256 itself is
left open: the results are about the bytes that it is given.
-/
namespace Meshquill.Store

/-- `OsStr`: a name of which the length is a `u64`. -/
@[ext] structure OsStr (unit : Type) where
  units : List unit
  short : units.length < 18446744073709551616
deriving DecidableEq

/-- What `hash_os_str` depends on: the tag of the platform, its full stop, and the bytes of a
unit of its names. -/
structure Platform (unit : Type) where
  tag : Bytes
  dot : unit
  width : Nat
  encode : unit → Bytes
  sized : ∀ value, (encode value).length = width
  faithful : Function.Injective encode

/-- `Component`. -/
inductive Component (unit : Type) where
  | pathPrefix (value : OsStr unit)
  | rootDir
  | curDir
  | parentDir
  | normal (value : OsStr unit)
deriving DecidableEq

/-- What the loop has gathered. -/
@[ext] structure NormalPath (unit : Type) where
  pathPrefix : Option (OsStr unit) := none
  rooted : Bool := false
  parts : List (OsStr unit) := []
deriving DecidableEq

/-- `to_le_bytes`. -/
def toLeBytes (width value : Nat) : Bytes := (BigEndian.encode width value).reverse

namespace Platform

variable {unit : Type} (platform : Platform unit)

def dotDot : OsStr unit := ⟨[platform.dot, platform.dot], by simp⟩

section Normalizing

variable [DecidableEq unit]

/-- The body of the loop. -/
def step (path : NormalPath unit) : Component unit → NormalPath unit
  | .pathPrefix value => { path with pathPrefix := some value }
  | .rootDir => { path with rooted := true }
  | .curDir => path
  | .parentDir =>
    if path.parts.getLast?.any (· ≠ platform.dotDot) then { path with parts := path.parts.dropLast }
    else if !path.rooted then { path with parts := path.parts ++ [platform.dotDot] }
    else path
  | .normal value => { path with parts := path.parts ++ [value] }

def normalize (components : List (Component unit)) : NormalPath unit :=
  components.foldl platform.step {}

end Normalizing

def hashOsStr (value : OsStr unit) : Bytes :=
  platform.tag ++ (toLeBytes 8 value.units.length ++ value.units.flatMap platform.encode)

/-- The bytes `prefix` with a NUL, the prefix and a NUL, if there is one. -/
def prefixBytes : Option (OsStr unit) → Bytes
  | some value => [112, 114, 101, 102, 105, 120, 0] ++ platform.hashOsStr value ++ [0]
  | none => []

/-- The bytes `root` or `relative` with a NUL. -/
def rootBytes (rooted : Bool) : Bytes :=
  if rooted then [114, 111, 111, 116, 0] else [114, 101, 108, 97, 116, 105, 118, 101, 0]

/-- What the hasher is given. -/
def preHash (path : NormalPath unit) : Bytes :=
  platform.prefixBytes path.pathPrefix ++ rootBytes path.rooted ++
    path.parts.flatMap platform.hashOsStr

def normalizedConfigPathDigest [DecidableEq unit] (sha256 : Bytes → String)
    (components : List (Component unit)) : String :=
  sha256 (platform.preHash (platform.normalize components))

/-- A component after the prefix and the root: its name is not `..`. -/
def Below : Component unit → Prop
  | .curDir | .parentDir => True
  | .normal value => value ≠ platform.dotDot
  | _ => False

/-- The components of a path: at most one prefix, then at most one root, then the others. -/
structure IsPath (components : List (Component unit)) : Prop where
  intro ::
  shaped : ∃ (front : Option (OsStr unit)) (rooted : Bool) (body : List (Component unit)),
    components = (front.map .pathPrefix).toList ++ (if rooted then [.rootDir] else []) ++ body ∧
      ∀ component ∈ body, platform.Below component

end Platform

/-- The components of a normal form. -/
def NormalPath.components {unit : Type} [DecidableEq unit] (platform : Platform unit)
    (path : NormalPath unit) : List (Component unit) :=
  (path.pathPrefix.map .pathPrefix).toList ++ (if path.rooted then [.rootDir] else []) ++
    path.parts.map fun part => if part = platform.dotDot then .parentDir else .normal part

/-! ## Normal forms -/

namespace Platform

variable {unit : Type} [DecidableEq unit] {platform : Platform unit}

/-- The parts of a normal form: as many `..` as lead out of a relative path, then names. -/
def Settled (platform : Platform unit) (path : NormalPath unit) : Prop :=
  ∃ ups names, path.parts = List.replicate ups platform.dotDot ++ names ∧
    platform.dotDot ∉ names ∧ (path.rooted = true → ups = 0)

theorem step_curDir (path : NormalPath unit) : platform.step path .curDir = path := rfl

variable {path : NormalPath unit} {value : OsStr unit} {ups : Nat}

/-- A `..` after a name takes it away. -/
theorem step_parentDir_of_name {earlier : List (OsStr unit)}
    (parts : path.parts = earlier ++ [value]) (named : value ≠ platform.dotDot) :
    platform.step path .parentDir = { path with parts := earlier } := by
  simp [step, parts, named]

/-- A `..` after no name leads out of a relative path, and not out of the root. -/
theorem step_parentDir_of_ups (parts : path.parts = List.replicate ups platform.dotDot) :
    platform.step path .parentDir =
      if path.rooted then path
      else { path with parts := List.replicate (ups + 1) platform.dotDot } := by
  have unnamed : path.parts.getLast?.any (· ≠ platform.dotDot) = false := by
    rw [parts, List.getLast?_replicate]
    split <;> simp
  unfold step
  simp only [unnamed]
  cases path.rooted <;> simp [parts, List.replicate_succ']

/-- A name and a `..` cancel out. -/
theorem step_normal_parentDir (path : NormalPath unit) (named : value ≠ platform.dotDot) :
    platform.step (platform.step path (.normal value)) .parentDir = path :=
  step_parentDir_of_name rfl named

/-- One component keeps a path settled, and its prefix and its root. -/
theorem step_settled {component : Component unit} (settled : platform.Settled path)
    (below : platform.Below component) :
    platform.Settled (platform.step path component) ∧
      (platform.step path component).pathPrefix = path.pathPrefix ∧
      (platform.step path component).rooted = path.rooted := by
  obtain ⟨ups, names, parts, named, rooted⟩ := settled
  cases component with
  | pathPrefix | rootDir => exact below.elim
  | curDir => exact ⟨⟨ups, names, parts, named, rooted⟩, rfl, rfl⟩
  | normal value =>
    refine ⟨⟨ups, names ++ [value], ?_, ?_, rooted⟩, rfl, rfl⟩
    · rw [← List.append_assoc, ← parts]
      rfl
    · intro inside
      rcases List.mem_append.mp inside with inside | last
      · exact named inside
      · exact below (List.mem_singleton.mp last).symm
  | parentDir =>
    -- The last part is a name, or there are only `..` left.
    rcases List.eq_nil_or_concat' names with rfl | ⟨earlier, last, rfl⟩
    · rw [List.append_nil] at parts
      rw [step_parentDir_of_ups parts]
      cases absolute : path.rooted with
      | true =>
        have unmoved : path.parts = List.replicate ups platform.dotDot ++ [] := by
          rw [parts, List.append_nil]
        exact ⟨⟨ups, [], unmoved, named, rooted⟩, rfl, absolute⟩
      | false => exact ⟨⟨ups + 1, [], (List.append_nil _).symm, named, nofun⟩, rfl, rfl⟩
    · have isName : last ≠ platform.dotDot := by
        rintro rfl
        exact named (List.mem_append_right _ (List.mem_singleton_self _))
      rw [← List.append_assoc] at parts
      rw [step_parentDir_of_name parts isName]
      exact ⟨⟨ups, earlier, rfl, fun inside => named (List.mem_append_left _ inside), rooted⟩,
        rfl, rfl⟩

theorem foldl_settled {body : List (Component unit)} (settled : platform.Settled path)
    (below : ∀ component ∈ body, platform.Below component) :
    platform.Settled (body.foldl platform.step path) ∧
      (body.foldl platform.step path).pathPrefix = path.pathPrefix ∧
      (body.foldl platform.step path).rooted = path.rooted := by
  induction body generalizing path with
  | nil => exact ⟨settled, rfl, rfl⟩
  | cons component rest ih =>
    obtain ⟨next, samePrefix, sameRoot⟩ := step_settled settled (below component List.mem_cons_self)
    obtain ⟨last, lastPrefix, lastRoot⟩ := ih next
      fun other inside => below other (List.mem_cons_of_mem _ inside)
    exact ⟨last, lastPrefix.trans samePrefix, lastRoot.trans sameRoot⟩

/-- The front of a path: no part yet. -/
theorem foldl_front (front : Option (OsStr unit)) (rooted : Bool) :
    ((front.map Component.pathPrefix).toList ++ (if rooted then [Component.rootDir] else [])).foldl
      platform.step {} = { pathPrefix := front, rooted } := by
  cases front <;> cases rooted <;> rfl

theorem settled_normalize {path : List (Component unit)} (isPath : platform.IsPath path) :
    platform.Settled (platform.normalize path) := by
  obtain ⟨front, rooted, body, rfl, below⟩ := isPath.shaped
  have empty : platform.Settled { pathPrefix := front, rooted } := ⟨0, [], rfl, by simp, fun _ => rfl⟩
  rw [normalize, List.foldl_append, foldl_front]
  exact (foldl_settled empty below).1

/-- The `..` at the start of a relative path stay. -/
theorem foldl_ups (front : Option (OsStr unit)) (ups : Nat) :
    (List.replicate ups Component.parentDir).foldl platform.step
        { pathPrefix := front, rooted := false } =
      { pathPrefix := front, rooted := false, parts := List.replicate ups platform.dotDot } := by
  induction ups with
  | zero => rfl
  | succ ups ih =>
    rw [List.replicate_succ', List.foldl_append, ih, List.foldl_cons, step_parentDir_of_ups rfl]
    rfl

theorem foldl_names (path : NormalPath unit) (names : List (OsStr unit)) :
    (names.map Component.normal).foldl platform.step path =
      { path with parts := path.parts ++ names } := by
  induction names generalizing path with
  | nil => simp
  | cons name rest ih =>
    rw [List.map_cons, List.foldl_cons, ih]
    simp [step]

/-- The parts of a settled path are the components that they came from. -/
theorem components_of_settled {names : List (OsStr unit)}
    (parts : path.parts = List.replicate ups platform.dotDot ++ names)
    (named : platform.dotDot ∉ names) :
    path.components platform =
      (path.pathPrefix.map .pathPrefix).toList ++ (if path.rooted then [.rootDir] else []) ++
        (List.replicate ups .parentDir ++ names.map .normal) := by
  have plain : names.map (fun part => if part = platform.dotDot then Component.parentDir
      else .normal part) = names.map .normal := by
    refine List.map_congr_left fun name inside => if_neg ?_
    rintro rfl
    exact named inside
  rw [NormalPath.components, parts, List.map_append, List.map_replicate, if_pos rfl, plain]

/-- A settled path is its own normal form. -/
theorem normalize_components (settled : platform.Settled path) :
    platform.normalize (path.components platform) = path := by
  obtain ⟨ups, names, parts, named, absolute⟩ := settled
  rw [components_of_settled parts named, normalize, List.foldl_append, foldl_front,
    List.foldl_append]
  cases rooted : path.rooted with
  | true =>
    rw [absolute rooted] at parts ⊢
    rw [List.replicate_zero, List.foldl_nil, foldl_names]
    ext1
    · rfl
    · exact rooted.symm
    · rw [parts]
      rfl
  | false =>
    rw [foldl_ups, foldl_names]
    ext1
    · rfl
    · exact rooted.symm
    · exact parts.symm

theorem isPath_components (settled : platform.Settled path) :
    platform.IsPath (path.components platform) := by
  obtain ⟨ups, names, parts, named, -⟩ := settled
  refine ⟨path.pathPrefix, path.rooted, _, components_of_settled parts named, ?_⟩
  intro component inside
  rcases List.mem_append.mp inside with up | name
  · rw [(List.mem_replicate.mp up).2]
    trivial
  · obtain ⟨name, member, rfl⟩ := List.mem_map.mp name
    exact fun same => named (same ▸ member)

end Platform

/-! ## The hashed bytes -/

namespace Platform

variable {unit : Type}

theorem selfDelimiting_hashOsStr (platform : Platform unit) :
    SelfDelimiting platform.hashOsStr := by
  intro first second rest other same
  simp only [hashOsStr, List.append_assoc, List.append_cancel_left_eq] at same
  obtain ⟨lengths, units⟩ := List.append_inj same (by simp [toLeBytes])
  have fits : ∀ value : OsStr unit, BigEndian.Fits false 8 value.units.length := by
    intro value
    have short := value.short
    simp only [BigEndian.Fits, BigEndian.span, Bool.false_eq_true, if_false]
    omega
  have length : first.units.length = second.units.length := by
    have numbers := BigEndian.encode_inj (fits first) (fits second) (List.reverse_injective lengths)
    omega
  have delimited := SelfDelimiting.of_width platform.sized platform.faithful
  obtain ⟨equal, after⟩ := delimited.flatMap_append length units
  exact ⟨OsStr.ext equal, after⟩

theorem selfDelimiting_rootBytes : SelfDelimiting rootBytes := by
  intro first second rest other same
  cases first <;> cases second <;> simp [rootBytes] at same ⊢
  · exact same
  · exact same

theorem selfDelimiting_front (platform : Platform unit) :
    SelfDelimiting fun front : Option (OsStr unit) × Bool =>
      platform.prefixBytes front.1 ++ rootBytes front.2 := by
  rintro ⟨first, firstRooted⟩ ⟨second, secondRooted⟩ rest other same
  simp only [List.append_assoc] at same
  cases first with
  | none =>
    cases second with
    | none =>
      obtain ⟨rfl, after⟩ := selfDelimiting_rootBytes _ _ _ _ same
      exact ⟨rfl, after⟩
    | some value => cases firstRooted <;> simp [prefixBytes, rootBytes] at same
  | some value =>
    cases second with
    | none => cases secondRooted <;> simp [prefixBytes, rootBytes] at same
    | some candidate =>
      simp only [prefixBytes, List.append_assoc, List.append_cancel_left_eq] at same
      obtain ⟨rfl, later⟩ := platform.selfDelimiting_hashOsStr _ _ _ _ same
      obtain ⟨rfl, after⟩ := selfDelimiting_rootBytes _ _ _ _ (List.append_cancel_left later)
      exact ⟨rfl, after⟩

/-- The bytes that are hashed determine the normal form. -/
theorem preHash_injective (platform : Platform unit) : Function.Injective platform.preHash := by
  intro first second same
  obtain ⟨fronts, parts⟩ := platform.selfDelimiting_front (first.pathPrefix, first.rooted)
    (second.pathPrefix, second.rooted) _ _ same
  obtain ⟨prefixes, roots⟩ := Prod.mk.inj fronts
  have filled : ∀ value, platform.hashOsStr value ≠ [] := by
    intro value empty
    have length := congrArg List.length empty
    simp [hashOsStr, toLeBytes] at length
  exact NormalPath.ext prefixes roots
    (platform.selfDelimiting_hashOsStr.flatMap_injective filled parts)

end Platform

/-! ## Unix paths -/

def unix : Platform UInt8 where
  tag := [117, 110, 105, 120, 0]
  dot := 46
  width := 1
  encode value := [value]
  sized _ := rfl
  faithful _ _ same := List.singleton_injective same

theorem length_toLeBytes_two (value : UInt16) : (toLeBytes 2 value.toNat).length = 2 := by
  simp [toLeBytes]

theorem toLeBytes_two_inj {first second : UInt16}
    (same : toLeBytes 2 first.toNat = toLeBytes 2 second.toNat) : first = second := by
  have fits : ∀ value : UInt16, BigEndian.Fits false 2 value.toNat := by
    intro value
    have small := value.toNat_lt
    simp only [BigEndian.Fits, BigEndian.span, Bool.false_eq_true, if_false]
    omega
  have numbers := BigEndian.encode_inj (fits first) (fits second) (List.reverse_injective same)
  exact UInt16.toNat_inj.mp (by omega)

def windows : Platform UInt16 where
  tag := [119, 105, 110, 100, 111, 119, 115, 0]
  dot := 46
  width := 2
  encode value := toLeBytes 2 value.toNat
  sized := length_toLeBytes_two
  faithful _ _ := toLeBytes_two_inj

def otherPlatform : Platform UInt8 where
  tag := [112, 108, 97, 116, 102, 111, 114, 109, 0]
  dot := 46
  width := 1
  encode value := [value]
  sized _ := rfl
  faithful _ _ same := List.singleton_injective same

namespace OsStr

/-- What stands between the slashes. -/
def pieces (path : OsStr UInt8) : List (OsStr UInt8) :=
  (path.units.splitOn 47).pmap OsStr.mk fun _ inside =>
    Nat.lt_of_le_of_lt (length_le_of_mem_splitOn inside) path.short

/-- The component of a piece; an empty one or a `.` is none. -/
def component? (piece : OsStr UInt8) : Option (Component UInt8) :=
  if piece.units = [] ∨ piece.units = [46] then none
  else if piece.units = [46, 46] then some .parentDir
  else some (.normal piece)

def rooted (path : OsStr UInt8) : Bool := path.units.head? = some 47

/-- `Path::components` on Unix: repeated and trailing slashes and inner `.` are skipped, and a `.`
at the start of a relative path is kept. -/
def unixComponents (path : OsStr UInt8) : List (Component UInt8) :=
  (if path.rooted then [.rootDir]
    else if path.pieces.head?.any (·.units = [46]) then [.curDir] else []) ++
    path.pieces.filterMap component?

theorem units_injective : Function.Injective (OsStr.units : OsStr UInt8 → List UInt8) :=
  fun _ _ => OsStr.ext

theorem units_pieces (path : OsStr UInt8) : path.pieces.map units = path.units.splitOn 47 := by
  rw [pieces, List.map_pmap, List.pmap_eq_map, List.map_id']

variable {path front back name other : OsStr UInt8}

theorem pieces_append (units : path.units = front.units ++ 47 :: back.units) :
    path.pieces = front.pieces ++ back.pieces := by
  refine List.map_injective_iff.mpr units_injective ?_
  rw [List.map_append, units_pieces, units_pieces, units_pieces, units,
    List.splitOn_append_cons_self]

theorem pieces_of_not_mem (plain : 47 ∉ name.units) : name.pieces = [name] := by
  refine List.map_injective_iff.mpr units_injective ?_
  rw [units_pieces, List.map_singleton]
  exact splitOn_eq_iff.mpr ⟨by simp, by simpa using plain, by simp⟩

theorem normalize_unixComponents (path : OsStr UInt8) :
    unix.normalize path.unixComponents =
      (path.pieces.filterMap component?).foldl unix.step { rooted := path.rooted } := by
  rw [unixComponents, Platform.normalize, List.foldl_append]
  congr 1
  cases path.rooted with
  | true => rfl
  | false =>
    rw [if_neg (by simp)]
    split <;> rfl

theorem below_component {piece : OsStr UInt8} {component : Component UInt8}
    (found : piece.component? = some component) : unix.Below component := by
  unfold component? at found
  split at found
  · cases found
  · split at found <;> cases found
    · trivial
    · rename_i other
      exact fun same => other (congrArg units same)

theorem isPath_unixComponents (path : OsStr UInt8) : unix.IsPath path.unixComponents := by
  have body : ∀ component ∈ path.pieces.filterMap component?, unix.Below component := by
    intro component inside
    obtain ⟨piece, -, found⟩ := List.mem_filterMap.mp inside
    exact below_component found
  rw [unixComponents]
  cases path.rooted with
  | true => exact ⟨none, true, _, rfl, body⟩
  | false =>
    rw [if_neg (by simp)]
    split
    · exact ⟨none, false, _, rfl, List.forall_mem_cons.mpr ⟨trivial, body⟩⟩
    · exact ⟨none, false, _, rfl, body⟩

/-- What stands before the first slash decides whether a path is rooted. -/
theorem rooted_append {rest remainder : List UInt8}
    (units : path.units = front.units ++ 47 :: rest)
    (others : other.units = front.units ++ 47 :: remainder) : path.rooted = other.rooted := by
  rw [rooted, rooted, units, others]
  cases front.units <;> rfl

/-- A path with more between two slashes has the same normal form if that changes none. -/
theorem normalize_between {between : List UInt8}
    (units : path.units = front.units ++ 47 :: (between ++ 47 :: back.units))
    (others : other.units = front.units ++ 47 :: back.units)
    (cancels : ∀ (middle : OsStr UInt8) (normal : NormalPath UInt8), middle.units = between →
      (middle.pieces.filterMap component?).foldl unix.step normal = normal) :
    unix.normalize path.unixComponents = unix.normalize other.unixComponents := by
  have short : between.length < 18446744073709551616 ∧
      (between ++ 47 :: back.units).length < 18446744073709551616 := by
    have whole := path.short
    rw [units] at whole
    simp only [List.length_append, List.length_cons] at whole ⊢
    omega
  have outer : path.pieces = front.pieces ++ pieces ⟨between ++ 47 :: back.units, short.2⟩ :=
    pieces_append units
  have inner : pieces ⟨between ++ 47 :: back.units, short.2⟩ =
      pieces ⟨between, short.1⟩ ++ back.pieces := pieces_append rfl
  rw [normalize_unixComponents, normalize_unixComponents, rooted_append units others, outer, inner,
    pieces_append others, List.filterMap_append, List.filterMap_append, List.filterMap_append,
    List.foldl_append, List.foldl_append, List.foldl_append, cancels ⟨between, short.1⟩ _ rfl]

theorem normalize_dot (units : path.units = front.units ++ 47 :: 46 :: 47 :: back.units)
    (others : other.units = front.units ++ 47 :: back.units) :
    unix.normalize path.unixComponents = unix.normalize other.unixComponents := by
  refine @normalize_between path front back other [46] units others ?_
  intro middle normal dot
  rw [pieces_of_not_mem (by simp [dot])]
  simp [component?, dot]

theorem normalize_name (units : path.units =
      front.units ++ 47 :: (name.units ++ 47 :: 46 :: 46 :: 47 :: back.units))
    (others : other.units = front.units ++ 47 :: back.units)
    (named : name.component? = some (.normal name)) (plain : 47 ∉ name.units) :
    unix.normalize path.unixComponents = unix.normalize other.unixComponents := by
  have whole : path.units =
      front.units ++ 47 :: ((name.units ++ 47 :: [46, 46]) ++ 47 :: back.units) := by
    rw [units, List.append_assoc]
    rfl
  refine normalize_between whole others ?_
  intro middle normal between
  have up : pieces ⟨[46, 46], by decide⟩ = [⟨[46, 46], by decide⟩] := pieces_of_not_mem (by decide)
  have climbs : component? ⟨[46, 46], by decide⟩ = some .parentDir := rfl
  have apart : name ≠ unix.dotDot := by
    rintro rfl
    cases named
  rw [@pieces_append middle name ⟨[46, 46], by decide⟩ between, pieces_of_not_mem plain, up,
    List.singleton_append, List.filterMap_cons_some named, List.filterMap_cons_some climbs]
  exact Platform.step_normal_parentDir normal apart

end OsStr

/-- Normalising a path twice is normalising it once. A `.`, or a name and a `..` after it, may
stand anywhere. The bytes that are hashed are equal exactly if the normal forms are. All of this
holds for the components on every platform; on Unix, also for what is written between two
slashes. -/
theorem config_path_normal_forms {unit : Type} [DecidableEq unit] (platform : Platform unit) :
    (∀ path, platform.IsPath path →
      platform.IsPath ((platform.normalize path).components platform) ∧
      platform.normalize ((platform.normalize path).components platform) =
        platform.normalize path) ∧
    (∀ before after,
      platform.normalize (before ++ .curDir :: after) = platform.normalize (before ++ after)) ∧
    (∀ before name after, name ≠ platform.dotDot →
      platform.normalize (before ++ .normal name :: .parentDir :: after) =
        platform.normalize (before ++ after)) ∧
    (∀ path other, platform.preHash (platform.normalize path) =
        platform.preHash (platform.normalize other) ↔
      platform.normalize path = platform.normalize other) ∧
    (∀ path : OsStr UInt8, unix.IsPath path.unixComponents) ∧
    (∀ path other front back : OsStr UInt8,
      path.units = front.units ++ 47 :: 46 :: 47 :: back.units →
      other.units = front.units ++ 47 :: back.units →
      unix.normalize path.unixComponents = unix.normalize other.unixComponents) ∧
    (∀ path other front back name : OsStr UInt8,
      path.units = front.units ++ 47 :: (name.units ++ 47 :: 46 :: 46 :: 47 :: back.units) →
      other.units = front.units ++ 47 :: back.units →
      name.units ≠ [] → name.units ≠ [46] → name.units ≠ [46, 46] → 47 ∉ name.units →
      unix.normalize path.unixComponents = unix.normalize other.unixComponents) := by
  refine ⟨fun path isPath => ?_, fun before after => ?_, fun before name after named => ?_,
    fun path other => platform.preHash_injective.eq_iff, OsStr.isPath_unixComponents,
    fun path other front back => OsStr.normalize_dot, ?_⟩
  · have settled := Platform.settled_normalize isPath
    exact ⟨Platform.isPath_components settled, Platform.normalize_components settled⟩
  · simp only [Platform.normalize, List.foldl_append, List.foldl_cons, Platform.step_curDir]
  · simp only [Platform.normalize, List.foldl_append, List.foldl_cons,
      Platform.step_normal_parentDir _ named]
  · intro path other front back name units others filled noDot noDots plain
    refine OsStr.normalize_name units others ?_ plain
    simp [OsStr.component?, filled, noDot, noDots]

end Meshquill.Store
