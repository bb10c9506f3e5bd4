import SlackCourier.MediaType

/-!
# Known media types

The table of media types that the executable has: the extensions that are met most
often, folded, and their types.
-/

namespace SlackCourier.MediaType

/-- The extensions, folded, and their types. -/
def knownTypes : List (String × String) := [
  ("123", "application/vnd.lotus-1-2-3"),
  ("323", "text/h323"),
  ("3gp", "video/3gpp"),
  ("7z", "application/x-7z-compressed"),
  ("aac", "audio/aac"),
  ("ai", "application/postscript"),
  ("apk", "application/vnd.android.package-archive"),
  ("avi", "video/x-msvideo"),
  ("avif", "image/avif"),
  ("bat", "application/x-msdownload"),
  ("bmp", "image/bmp"),
  ("bz2", "application/x-bzip2"),
  ("c", "text/plain"),
  ("cfg", "text/plain"),
  ("class", "application/x-java-applet"),
  ("conf", "text/plain"),
  ("config", "application/xml"),
  ("cpp", "text/plain"),
  ("crt", "application/x-x509-ca-cert"),
  ("cs", "text/plain"),
  ("css", "text/css"),
  ("csv", "text/csv"),
  ("dart", "application/vnd.dart"),
  ("der", "application/x-x509-ca-cert"),
  ("dll", "application/x-msdownload"),
  ("doc", "application/msword"),
  ("docx", "application/vnd.openxmlformats-officedocument.wordprocessingml.document"),
  ("eml", "message/rfc822"),
  ("eot", "application/vnd.ms-fontobject"),
  ("eps", "application/postscript"),
  ("epub", "application/epub+zip"),
  ("fe_launch", "application/vnd.denovo.fcselayout-link"),
  ("flac", "audio/flac"),
  ("flv", "video/x-flv"),
  ("gif", "image/gif"),
  ("gz", "application/gzip"),
  ("h", "text/plain"),
  ("heic", "image/heic"),
  ("htm", "text/html"),
  ("html", "text/html"),
  ("ico", "image/x-icon"),
  ("ics", "text/calendar"),
  ("ini", "text/plain"),
  ("jar", "application/java-archive"),
  ("jpe", "image/jpeg"),
  ("jpeg", "image/jpeg"),
  ("jpg", "image/jpeg"),
  ("js", "text/javascript"),
  ("json", "application/json"),
  ("jsonld", "application/ld+json"),
  ("jsx", "text/javascript"),
  ("kml", "application/vnd.google-earth.kml+xml"),
  ("library-ms", "application/windows-library+xml"),
  ("lnk", "application/x-ms-shortcut"),
  ("log", "text/plain"),
  ("lua", "text/x-lua"),
  ("m3u8", "audio/x-mpegurl"),
  ("m4a", "audio/m4a"),
  ("m4v", "video/x-m4v"),
  ("map", "text/plain"),
  ("markdown", "text/markdown"),
  ("md", "text/markdown"),
  ("mht", "message/rfc822"),
  ("mid", "audio/mid"),
  ("mjs", "application/javascript"),
  ("mkv", "video/x-matroska"),
  ("mov", "video/quicktime"),
  ("mp3", "audio/mpeg"),
  ("mp4", "video/mp4"),
  ("mpeg", "video/mpeg"),
  ("mpg", "video/mpeg"),
  ("n-gage", "application/vnd.nokia.n-gage.symbian.install"),
  ("odp", "application/vnd.oasis.opendocument.presentation"),
  ("ods", "application/vnd.oasis.opendocument.spreadsheet"),
  ("odt", "application/vnd.oasis.opendocument.text"),
  ("oga", "audio/ogg"),
  ("ogg", "audio/ogg"),
  ("ogv", "video/ogg"),
  ("opus", "audio/ogg"),
  ("otf", "application/font-sfnt"),
  ("p12", "application/x-pkcs12"),
  ("pdf", "application/pdf"),
  ("pem", "application/x-x509-ca-cert"),
  ("php", "application/x-httpd-php"),
  ("pl", "application/x-perl"),
  ("png", "image/png"),
  ("ppt", "application/vnd.ms-powerpoint"),
  ("pptx", "application/vnd.openxmlformats-officedocument.presentationml.presentation"),
  ("ps", "application/postscript"),
  ("py", "text/plain"),
  ("rar", "application/x-rar-compressed"),
  ("rpm", "audio/x-pn-realaudio-plugin"),
  ("rs", "text/x-rust"),
  ("rtf", "application/rtf"),
  ("sh", "application/x-sh"),
  ("sql", "application/x-sql"),
  ("svg", "image/svg+xml"),
  ("swf", "application/x-shockwave-flash"),
  ("tar", "application/x-tar"),
  ("tex", "application/x-tex"),
  ("tgz", "application/x-compressed"),
  ("tif", "image/tiff"),
  ("tiff", "image/tiff"),
  ("toml", "text/x-toml"),
  ("torrent", "application/x-bittorrent"),
  ("ts", "video/vnd.dlna.mpeg-tts"),
  ("tsv", "text/tab-separated-values"),
  ("ttf", "font/ttf"),
  ("txt", "text/plain"),
  ("vb", "text/plain"),
  ("vcf", "text/x-vcard"),
  ("war", "application/java-archive"),
  ("wasm", "application/wasm"),
  ("wav", "audio/wav"),
  ("webm", "video/webm"),
  ("webp", "image/webp"),
  ("wmv", "video/x-ms-wmv"),
  ("woff", "application/font-woff"),
  ("woff2", "font/woff2"),
  ("x", "application/directx"),
  ("xls", "application/vnd.ms-excel"),
  ("xlsx", "application/vnd.openxmlformats-officedocument.spreadsheetml.sheet"),
  ("xml", "text/xml"),
  ("xz", "application/x-xz"),
  ("yaml", "text/x-yaml"),
  ("yml", "text/x-yaml"),
  ("zip", "application/zip")]

/-- The table of these extensions. -/
def known : Table := fun extension =>
  knownTypes.lookup extension

end SlackCourier.MediaType
