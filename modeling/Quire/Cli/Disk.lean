import Quire.Text.Split

set_option autoImplicit false

/-!
The disk that a run sees and changes, and how paths lead to places on it.

A path is followed as the system follows it: from the root or from the working directory, name by
name, through directories and symbolic links. The last name may be missing, so that a file can be
made there.
-/

namespace Quire.Cli

inductive DiskError where
  | noSuchFile
  | notADirectory
  | isADirectory
  | tooManyLinks
  | invalidText
  | invalidName
  | nameTooLong
  | other (cause : String)
  deriving DecidableEq

def DiskError.message : DiskError → String
  | .noSuchFile => "No such file or directory (os error 2)"
  | .notADirectory => "Not a directory (os error 20)"
  | .isADirectory => "Is a directory (os error 21)"
  | .tooManyLinks => "Too many levels of symbolic links (os error 40)"
  | .invalidText => "stream did not contain valid UTF-8"
  | .invalidName => "file name contained an unexpected NUL byte"
  | .nameTooLong => "File name too long (os error 36)"
  | .other cause => cause

inductive Kind where
  | file (contents : List UInt8)
  | directory
  | link (target : String)
  deriving DecidableEq

inductive Access where
  | enter
  | read
  | write
  deriving DecidableEq

/-- A place is given by the names on the way down from the root. -/
abbrev Place := List String

/-- What is at each place, the working directory, and what the system refuses to do where. Directories
may be empty, and whatever is somewhere is in a directory. -/
structure Disk where
  kind? : Place → Option Kind
  here : Place
  refusal? : Access → Place → Option DiskError
  root_directory : kind? [] = some .directory
  here_directory : kind? here = some .directory
  parent_directory {place : Place} {name : String} {kind : Kind} :
    kind? (place ++ [name]) = some kind → kind? place = some .directory

namespace Disk

def nameLimit : Nat := 255

def pathLimit : Nat := 4095

def linkLimit : Nat := 40

def isTooLong (name : String) : Bool :=
  nameLimit < name.utf8ByteSize

def origin (directory : Place) (path : String) : Place :=
  if path.toList.head? = some '/' then [] else directory

inductive Walk where
  | arrived (place : Place)
  | failed (error : DiskError)
  | linked (directory : Place) (target : String) (rest : List String)

/-- Follows the parts of a path from a directory, up to the first symbolic link. All names but the
last have to be there, and what has parts behind it has to be a directory. A file cannot be made
under a name with a slash behind it, whatever the name stands for. -/
def walk (disk : Disk) (creating : Bool) : Place → List String → Walk
  | place, [] => .arrived place
  | place, part :: rest =>
      if part = "" then disk.walk creating place rest
      else
        match disk.refusal? .enter place with
        | some error => .failed error
        | none =>
            if part = "." then disk.walk creating place rest
            else if part = ".." then disk.walk creating place.dropLast rest
            else if creating && !rest.isEmpty && rest.all fun part => part.isEmpty then
              .failed .isADirectory
            else if isTooLong part then .failed .nameTooLong
            else
              match disk.kind? (place ++ [part]) with
              | some .directory => disk.walk creating (place ++ [part]) rest
              | some (.link target) => .linked place target rest
              | some (.file _) =>
                  if rest.isEmpty then .arrived (place ++ [part]) else .failed .notADirectory
              | none => if rest.isEmpty then .arrived (place ++ [part]) else .failed .noSuchFile

def resolve (disk : Disk) (creating : Bool) :
    Nat → Place → List String → Except DiskError Place
  | links, place, parts =>
      match disk.walk creating place parts with
      | .arrived place => .ok place
      | .failed error => .error error
      | .linked directory target rest =>
          match links with
          | 0 => .error .tooManyLinks
          | links + 1 =>
              disk.resolve creating links (origin directory target)
                (Text.splitAt '/' target ++ rest)

def pathFault? (path : String) : Option DiskError :=
  if path.isEmpty then some .noSuchFile
  else if path.toList.contains '\x00' then some .invalidName
  else if pathLimit < path.utf8ByteSize then some .nameTooLong
  else none

/-- The place that a path leads to, for a file to be made there or not. -/
def place (disk : Disk) (creating : Bool) (path : String) : Except DiskError Place :=
  match pathFault? path with
  | some error => .error error
  | none => disk.resolve creating linkLimit (origin disk.here path) (Text.splitAt '/' path)

def present (disk : Disk) (path : String) : Bool :=
  match disk.place false path with
  | .error _ => false
  | .ok place => (disk.kind? place).isSome

def decode (contents : List UInt8) : Except DiskError String :=
  match String.fromUTF8? contents.toByteArray with
  | some content => .ok content
  | none => .error .invalidText

def read (disk : Disk) (path : String) : Except DiskError String := do
  let place ← disk.place false path
  match disk.kind? place, disk.refusal? .read place with
  | none, _ => .error .noSuchFile
  | some _, some error => .error error
  | some (.file contents), none => decode contents
  | some _, none => .error .isADirectory

def Within (disk : Disk) (place : Place) : Prop :=
  ∀ directory name, place = directory ++ [name] → disk.kind? directory = some .directory

variable {disk : Disk} {creating : Bool} {start place other : Place} {parts : List String}

theorem within_of_kind? {kind : Kind} (there : disk.kind? place = some kind) :
    disk.Within place := by
  rintro directory name rfl
  exact disk.parent_directory there

theorem within_concat {name : String} (standing : disk.kind? place = some .directory) :
    disk.Within (place ++ [name]) := by
  intro directory name same
  rw [← (List.append_inj' same rfl).1]
  exact standing

theorem kind?_dropLast (standing : disk.kind? place = some .directory) :
    disk.kind? place.dropLast = some .directory := by
  obtain rfl | ⟨above, name, rfl⟩ := List.eq_nil_or_concat place
  · exact standing
  · rw [List.concat_eq_append] at standing ⊢
    rw [List.dropLast_concat]
    exact disk.parent_directory standing

def Walk.Sound (disk : Disk) : Walk → Prop
  | .arrived place => disk.Within place ∧ ∀ target, disk.kind? place ≠ some (.link target)
  | .failed _ => True
  | .linked directory _ _ => disk.kind? directory = some .directory

theorem walk_sound (standing : disk.kind? start = some .directory) :
    (disk.walk creating start parts).Sound disk := by
  fun_induction walk disk creating start parts with
  | case1 place => exact ⟨within_of_kind? standing, by simp [standing]⟩
  | case2 place rest ih => exact ih standing
  | case3 => trivial
  | case4 place rest _ _ ih => exact ih standing
  | case5 place rest _ _ _ ih => exact ih (kind?_dropLast standing)
  | case6 => trivial
  | case7 => trivial
  | case8 place part rest _ _ _ _ _ _ there ih => exact ih there
  | case9 => exact standing
  | case10 place part rest _ _ _ _ _ _ contents there _ =>
      exact ⟨within_concat standing, by simp [there]⟩
  | case11 => trivial
  | case12 place part rest _ _ _ _ _ _ missing _ =>
      exact ⟨within_concat standing, by simp [missing]⟩
  | case13 => trivial

theorem origin_directory (standing : disk.kind? start = some .directory) (path : String) :
    disk.kind? (origin start path) = some .directory := by
  unfold origin
  split
  · exact disk.root_directory
  · exact standing

theorem resolve_sound {links : Nat} (standing : disk.kind? start = some .directory)
    (resolved : disk.resolve creating links start parts = .ok place) :
    disk.Within place ∧ ∀ target, disk.kind? place ≠ some (.link target) := by
  fun_induction resolve disk creating links start parts with
  | case1 _ start parts arrived walked =>
      cases resolved
      have sound : (disk.walk creating start parts).Sound disk := walk_sound standing
      rw [walked] at sound
      exact sound
  | case2 => cases resolved
  | case3 => cases resolved
  | case4 start parts directory target rest walked links ih =>
      have sound : (disk.walk creating start parts).Sound disk := walk_sound standing
      rw [walked] at sound
      exact ih (origin_directory sound target) resolved

theorem place_sound {path : String} (leads : disk.place creating path = .ok place) :
    disk.Within place ∧ ∀ target, disk.kind? place ≠ some (.link target) := by
  unfold Disk.place at leads
  split at leads
  · cases leads
  · exact resolve_sound (origin_directory disk.here_directory path) leads

def put (disk : Disk) (place : Place) (contents : List UInt8) (within : disk.Within place)
    (free : disk.kind? place ≠ some .directory) : Disk where
  kind? other := if other = place then some (.file contents) else disk.kind? other
  here := disk.here
  refusal? := disk.refusal?
  root_directory := by
    rw [if_neg (by rintro rfl; exact free disk.root_directory)]
    exact disk.root_directory
  here_directory := by
    rw [if_neg (by rintro rfl; exact free disk.here_directory)]
    exact disk.here_directory
  parent_directory := by
    intro other name kind there
    have above : disk.kind? other = some .directory := by
      by_cases same : other ++ [name] = place
      · exact within other name same.symm
      · rw [if_neg same] at there
        exact disk.parent_directory there
    rw [if_neg (by rintro rfl; exact free above)]
    exact above

def write (disk : Disk) (path content : String) : Except DiskError Disk :=
  match leads : disk.place true path with
  | .error error => .error error
  | .ok place =>
      if standing : disk.kind? place = some .directory then .error .isADirectory
      else
        match disk.refusal? .write place with
        | some error => .error error
        | none => .ok (disk.put place content.toUTF8.toList (place_sound leads).1 standing)

/-- The disk with some entries, seen from a working directory. All directories on the way to them are
there as well. -/
def ofEntries (here : Place) (entries : List (Place × Kind)) : Disk where
  kind? place :=
    if place <+: here ∨ ∃ entry ∈ entries, place <+: entry.1 ∧ place ≠ entry.1 then some .directory
    else entries.lookup place
  here := here
  refusal? _ _ := none
  root_directory := if_pos (.inl List.nil_prefix)
  here_directory := if_pos (.inl (List.prefix_refl here))
  parent_directory := by
    intro place name kind there
    have shorter {longer : Place} (below : place ++ [name] <+: longer) :
        place <+: longer ∧ place ≠ longer := by
      refine ⟨(List.prefix_append place [name]).trans below, ?_⟩
      rintro rfl
      have longer := below.length_le
      rw [List.length_append, List.length_singleton] at longer
      omega
    apply if_pos
    split at there
    next above =>
      obtain below | ⟨entry, member, below, -⟩ := above
      · exact .inl (shorter below).1
      · exact .inr ⟨entry, member, shorter below⟩
    next =>
      obtain ⟨before, after, split, -⟩ := List.lookup_eq_some_iff.mp there
      exact .inr ⟨(place ++ [name], kind), by simp [split], shorter (List.prefix_refl _)⟩

end Disk
end Quire.Cli
