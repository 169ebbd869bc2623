/-!
# Pictures

What the screens put into an image view: a picture of the app by its name, or
what `UIImage(data:)` reads in downloaded data.
-/

namespace Takeit

/-- Downloaded data, by the picture they hold, if they hold one. -/
structure ImageData where
  image : Option String
deriving DecidableEq, Repr

/-- What an image view was given: `UIImage(named:)`, or `UIImage(data:)` of what
was downloaded for `source`. -/
inductive Picture
  | named (name : String)
  | downloaded (source : String) (data : ImageData)
deriving DecidableEq, Repr

end Takeit
