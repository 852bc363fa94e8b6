import LtiPlatform.Vocabulary.Term

namespace LtiPlatform.ContextType

def handles : List String := ["CourseTemplate", "CourseOffering", "CourseSection", "Group"]

def ofHandle (handle : String) : Term where
  legacy := some ("urn:lti:context-type:ims/lis/" ++ handle)
  modern := some (lisV2 ++ "/course#" ++ handle)
  handle := some handle
  draft := none

/-- The kinds of course that a launch can come from. -/
def vocabulary : Vocabulary := ⟨handles.map ofHandle⟩

end LtiPlatform.ContextType
