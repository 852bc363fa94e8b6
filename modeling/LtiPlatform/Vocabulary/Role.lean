import LtiPlatform.Vocabulary.Term
import LtiPlatform.Text

namespace LtiPlatform.Role

def legacyContextPrefix : String := "urn:lti:role:ims/lis/"

def systemNames : List String :=
  ["AccountAdmin", "Administrator", "Creator", "None", "SysAdmin", "SysSupport", "User"]

/-- System roles that came with LIS v2. -/
def newSystemNames : List String := ["TestUser"]

def institutionNames : List String :=
  ["Administrator", "Alumni", "Faculty", "Guest", "Instructor", "Learner", "Member", "Mentor",
    "None", "Observer", "Other", "ProspectiveStudent", "Staff", "Student"]

/-- Context roles that are spelled alike in both eras. -/
def contextHandles : List String :=
  ["Administrator",
    "Administrator/Administrator",
    "Administrator/Developer",
    "Administrator/ExternalDeveloper",
    "Administrator/ExternalSupport",
    "Administrator/ExternalSystemAdministrator",
    "Administrator/Support",
    "Administrator/SystemAdministrator",
    "ContentDeveloper",
    "ContentDeveloper/ContentDeveloper",
    "ContentDeveloper/ContentExpert",
    "ContentDeveloper/ExternalContentExpert",
    "ContentDeveloper/Librarian",
    "Instructor",
    "Instructor/ExternalInstructor",
    "Instructor/GuestInstructor",
    "Instructor/Lecturer",
    "Instructor/PrimaryInstructor",
    "Learner",
    "Learner/ExternalLearner",
    "Learner/GuestLearner",
    "Learner/Instructor",
    "Learner/Learner",
    "Learner/NonCreditLearner",
    "Manager/AreaManager",
    "Manager/CourseCoordinator",
    "Manager/ExternalObserver",
    "Manager/Observer",
    "Member",
    "Member/Member",
    "Mentor",
    "Mentor/Advisor",
    "Mentor/Auditor",
    "Mentor/ExternalAdvisor",
    "Mentor/ExternalAuditor",
    "Mentor/ExternalLearningFacilitator",
    "Mentor/ExternalMentor",
    "Mentor/ExternalReviewer",
    "Mentor/ExternalTutor",
    "Mentor/LearningFacilitator",
    "Mentor/Mentor",
    "Mentor/Reviewer",
    "Mentor/Tutor"]

/-- Teaching assistants were a principal role of their own and are sub-roles of the instructor in
LIS v2. -/
def assistantPaths : List (String × String) :=
  [("TeachingAssistant", "Instructor/TeachingAssistant"),
    ("TeachingAssistant/Grader", "Instructor/Grader"),
    ("TeachingAssistant/TeachingAssistantGroup", "Instructor/TeachingAssistantGroup"),
    ("TeachingAssistant/TeachingAssistantOffering", "Instructor/TeachingAssistantOffering"),
    ("TeachingAssistant/TeachingAssistantSection", "Instructor/TeachingAssistantSection"),
    ("TeachingAssistant/TeachingAssistantSectionAssociation",
      "Instructor/TeachingAssistantSectionAssociation"),
    ("TeachingAssistant/TeachingAssistantTemplate", "Instructor/TeachingAssistantTemplate")]

/-- Context roles that came with LIS v2. -/
def newContextHandles : List String :=
  ["Manager", "Officer", "Officer/Chair", "Officer/Communications", "Officer/Secretary",
    "Officer/Treasurer", "Officer/Vice-Chair"]

/-- A sub-role is the fragment below its principal role. -/
def membershipUri (handle : String) : String :=
  match Text.split '/' handle with
  | [principal, sub] => lisV2 ++ "/membership/" ++ principal ++ "#" ++ sub
  | _ => lisV2 ++ "/membership#" ++ handle

/-- The role of a person in the system or the institution. The drafts did not tell the two apart. -/
def ofPerson (scope : String) (legacy : Option String) (name : String) : Term where
  legacy := legacy
  modern := some (lisV2 ++ scope ++ "/person#" ++ name)
  handle := none
  draft := some (lisV2 ++ "/person#" ++ name)

def ofSystem (name : String) : Term :=
  ofPerson "/system" (some ("urn:lti:sysrole:ims/lis/" ++ name)) name

def ofInstitution (name : String) : Term :=
  ofPerson "/institution" (some ("urn:lti:instrole:ims/lis/" ++ name)) name

def ofContext (path : Option String) (handle : String) : Term where
  legacy := path.map (legacyContextPrefix ++ ·)
  modern := some (membershipUri handle)
  handle := some handle
  draft := none

/-- A second legacy spelling of the teaching assistant, which nothing is converted into. -/
def assistantAlias : Term where
  legacy := some (legacyContextPrefix ++ "TeachingAssistant/TeachingAssistant")
  modern := some (membershipUri "Instructor/TeachingAssistant")
  handle := none
  draft := none

/-- The legacy manager has no counterpart. -/
def legacyManager : Term where
  legacy := some (legacyContextPrefix ++ "Manager")
  modern := none
  handle := none
  draft := none

def vocabulary : Vocabulary where
  terms :=
    systemNames.map ofSystem ++ institutionNames.map ofInstitution ++
      contextHandles.map (fun handle => ofContext (some handle) handle) ++
      assistantPaths.map (fun (path, handle) => ofContext (some path) handle) ++
      [assistantAlias, legacyManager] ++ newContextHandles.map (ofContext none) ++
      newSystemNames.map (ofPerson "/system" none)

end LtiPlatform.Role
