import ApiReference.Markdown.FeatureList

/-! ## The whole document -/

namespace ApiReference.Catalog

open Markdown

def documentation (language : Text) (catalog : Catalog) : Text :=
  catalog.members.flatMap (·.documentation language)

def titleBlock (catalog : Catalog) : Text :=
  match catalog.title with
  | none => []
  | some title => separated (heading 1 title)

/-- The Markdown document of a catalog: the title, the list of features, and the
documentation of all members. -/
def toMarkdown (language : Text) (catalog : Catalog) : Text :=
  catalog.titleBlock ++ heading 2 "Features List".toList ++ ['\n'] ++
    catalog.featureList ++ ['\n'] ++ separated (heading 2 "Doc".toList) ++
      catalog.documentation language

def writingNotices (catalog : Catalog) : List Notice :=
  catalog.members.flatMap Member.notices

end ApiReference.Catalog
