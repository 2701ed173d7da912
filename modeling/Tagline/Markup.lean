import Tagline.Resolver

/-!
# Markup in script

Inside an echo tag, markup is put together by script: `"<a href='" + model.url() + "'>"`.
The functions of this module write such expressions. What stands between double quotes
is markup, and all else is script and is written as it is.
-/

namespace Tagline

namespace Markup

/-- An attribute of an element. -/
structure Attribute where
  name : Text
  value : Text
  deriving DecidableEq, Repr

/-- An attribute in writing, with the blank that separates it from what stands before it. -/
def Attribute.text (a : Attribute) : Text := ' ' :: a.name ++ "='".toList ++ a.value ++ ['\'']

/-- Attributes in writing, in order. -/
def attributes (as : List Attribute) : Text := as.flatMap Attribute.text

/-- The script for an address: one inside the page (`#top`) is quoted, and any other is
script already. -/
def address (url : Text) : Text :=
  match url with
  | '#' :: _ => '"' :: url ++ ['"']
  | _ => url

/-- The script for an element without content. -/
def element (name : Text) (as : List Attribute) : Text :=
  "\"<".toList ++ name ++ ' ' :: attributes as ++ " />\"".toList

/-- Script inside markup: the quotes before and after it are closed and opened again. -/
def spliced (script : Text) : Text := "\" + ".toList ++ script ++ " + \"".toList

/-- Gives the first attribute of a name a value, or else adds the attribute at the end. -/
def setAttribute (name value : Text) : List Attribute → List Attribute
  | [] => [⟨name, value⟩]
  | a :: as => if a.name = name then ⟨a.name, value⟩ :: as else a :: setAttribute name value as

/-- The script for an image whose address is the value of `source`. -/
def image (source : Text) (as : List Attribute) : Text :=
  element "img".toList (setAttribute "src".toList (spliced source) as)

/-- The script for a link, given the script for its content. -/
def anchorOf (content url : Text) (as : List Attribute) : Text :=
  "\"<a href='".toList ++ spliced (address url) ++ "' ".toList ++ attributes as ++ " >".toList ++
    spliced content ++ "</a>\"".toList

/-- The script for a link. Its content is resolved if there is a resolver. -/
def anchor (resolver : Option Resolver) (content url : Text) (as : List Attribute) :
    Logged Text :=
  match resolver with
  | none => pure (anchorOf content url as)
  | some r => (anchorOf · url as) <$> r.settle content

end Markup

end Tagline
