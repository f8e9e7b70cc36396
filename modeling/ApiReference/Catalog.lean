import ApiReference.Export.Basic
import ApiReference.Notice

/-! ## Catalogs

A catalog groups the members of an export: a class heads a group, and the
members that follow it up to the next class stand below it. -/

namespace ApiReference

/-- Members under the class that heads them. Members in front of all classes are
headed by none. -/
structure Group where
  head : Option Member
  members : List Member
deriving DecidableEq, Repr

def Group.all (group : Group) : List Member :=
  group.head.toList ++ group.members

structure Catalog where
  title : Option Text
  groups : List Group
deriving DecidableEq, Repr

namespace Catalog

def members (catalog : Catalog) : List Member :=
  catalog.groups.flatMap Group.all

/-- Puts a member in front of groups. A class takes in the members that no class
heads so far. -/
def enter (member : Member) (groups : List Group) : List Group :=
  let (followers, others) :=
    match groups with
    | ⟨none, followers⟩ :: others => (followers, others)
    | others => ([], others)
  if member.kind.isClass then ⟨some member, followers⟩ :: others
  else ⟨none, member :: followers⟩ :: others

def groupsOf (members : List Member) : List Group :=
  members.foldr enter []

def ofExport (entries : Export) : Catalog :=
  ⟨entries.assembly, groupsOf entries.members⟩

def memberNotices (member : Member) : List Notice :=
  (if member.isUndocumented then [.undocumented member.rawName] else []) ++
    [.taken member.kind member.longName member.sections.length]

def notices (entries : Export) : List Notice :=
  entries.members.flatMap memberNotices

end Catalog

end ApiReference
