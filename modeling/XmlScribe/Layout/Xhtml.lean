/-
**The layout of XHTML.**

Main definitions:

* `ProfileTable.xhtml` — how the elements of XHTML are laid out, in their namespace and without one.
-/

import XmlScribe.Layout.Profile

set_option autoImplicit false

namespace XmlScribe

namespace ProfileTable

/-- The namespace of XHTML. -/
def xhtmlUri : Text := "http://www.w3.org/1999/xhtml".toList

/-- The elements that stand on lines of their own. -/
def xhtmlBlocks : List String :=
  ["html", "head", "body", "title", "meta", "link", "script", "style", "div", "p",
   "h1", "h2", "h3", "h4", "h5", "h6", "ul", "ol", "li", "dl", "dt", "dd", "table",
   "thead", "tbody", "tfoot", "tr", "th", "td", "caption", "form", "fieldset", "pre",
   "blockquote", "hr", "address", "section", "article", "nav", "header", "footer",
   "aside", "main", "figure", "noscript"]

/-- The elements that a line ends after. -/
def xhtmlBreaks : List String := ["br"]

/-- The elements whose content is not indented further. -/
def xhtmlFlushes : List String := ["html", "body"]

/-- The elements whose content is left as it is. -/
def xhtmlPreserved : List String := ["pre", "script", "style", "textarea"]

/-- The preferred orders of attributes. -/
def xhtmlOrders : List (String × List String) :=
  [("a", ["href", "name", "title"]),
   ("img", ["src", "alt", "width", "height"]),
   ("link", ["rel", "type", "href"]),
   ("meta", ["name", "http-equiv", "content"]),
   ("script", ["type", "src"]),
   ("input", ["type", "name", "value"])]

/-- The table with the elements of XHTML in one namespace. -/
def withXhtml (table : ProfileTable) (uri : Option Text) : ProfileTable :=
  let classified :=
    (((table.withTraits .ofBlock uri (xhtmlBlocks.map String.toList)).withTraits .ofBreak uri
      (xhtmlBreaks.map String.toList)).withTraits .ofFlush uri
      (xhtmlFlushes.map String.toList)).withTraits .ofPreserved uri
      (xhtmlPreserved.map String.toList)
  xhtmlOrders.foldl
    (fun table order => table.withOrder uri order.1.toList (order.2.map String.toList)) classified

/-- How the elements of XHTML are laid out, in their namespace and without one. -/
def xhtml : ProfileTable :=
  (empty.withXhtml (some xhtmlUri)).withXhtml none

end ProfileTable

end XmlScribe
