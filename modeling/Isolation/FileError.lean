/-!
# Failures of files and archives

Why a file, a directory or an archive could not be read or written, with the wording of each
failure.
-/

namespace Isolation

/-- How an archive is damaged, or why an entry of it cannot be read. -/
inductive ArchiveFault where
  | noEntry
  | noDirectory
  | badHeader
  | unsupportedMethod
  | encrypted
  deriving DecidableEq, Inhabited

/-- What is wrong with an archive. -/
def ArchiveFault.message : ArchiveFault → String
  | noEntry => "specified file not found in archive"
  | noDirectory => "invalid Zip archive: Could not find EOCD"
  | badHeader => "invalid Zip archive: Invalid local file header"
  | unsupportedMethod => "unsupported Zip archive: Compression method not supported"
  | encrypted => "unsupported Zip archive: Password required to decrypt file"

/-- Why a file, a directory or an archive could not be used. -/
inductive FileError where
  | missing
  | notDirectory
  | isDirectory
  | alreadyExists
  | nameTooLong
  | nulInName
  | leavesDirectory (name directory : String)
  | notArchive (path : String)
  | tooShort
  | notText
  | wrongChecksum
  | corruptData
  | noLocator (entry path : String)
  | archive (fault : ArchiveFault)
  | other (reason : String)
  deriving DecidableEq, Inhabited

/-- What a failure says. -/
def FileError.message : FileError → String
  | missing => "No such file or directory (os error 2)"
  | notDirectory => "Not a directory (os error 20)"
  | isDirectory => "Is a directory (os error 21)"
  | alreadyExists => "File exists (os error 17)"
  | nameTooLong => "File name too long (os error 36)"
  | nulInName => "file name contained an unexpected NUL byte"
  | leavesDirectory name directory => name ++ " escapes classpath directory " ++ directory
  | notArchive path => path ++ " is neither a directory nor a jar archive"
  | tooShort => "failed to fill whole buffer"
  | notText => "stream did not contain valid UTF-8"
  | wrongChecksum => "Invalid checksum"
  | corruptData => "corrupt deflate stream"
  | noLocator entry path => "Cannot build locator for " ++ entry ++ " in " ++ path
  | archive fault => fault.message
  | other reason => reason

end Isolation
