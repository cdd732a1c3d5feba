import Precis.Text.Basic

/-!
Keys of the metadata of a document: those that are derived from it, those of its index entry, and
those under which the reader of the document reports what it found.
-/

namespace Precis.Key

def heading : Text := "heading".toList
def summary : Text := "summary".toList
def pages : Text := "pages".toList
def language : Text := "lang".toList
def lastModified : Text := "Last-Modified".toList
def description : Text := "metatag.description".toList
def twitterDescription : Text := "metatag.twitter:description".toList
def title : Text := "title".toList
def anchor : Text := "anchor".toList
def contentLength : Text := "contentLength".toList
def titleLength : Text := "titleLength".toList
def headingLength : Text := "headingLength".toList
def anchorLength : Text := "anchorLength".toList
def reportedPages : Text := "xmptpg:npages".toList
def created : Text := "created".toList
def modified : Text := "modified".toList

end Precis.Key
