import Grok.PatternFile

namespace Grok.Library

def builtinFile : Text :=
  ([
    "# 基础模式库（logstash grok-patterns 子集）\n",
    "# 格式：NAME DEFINITION，一行一个模式\n",
    "\n",
    "USERNAME [a-zA-Z0-9._-]+\n",
    "USER %\x7bUSERNAME\x7d\n",
    "EMAILLOCALPART [a-zA-Z][a-zA-Z0-9_.+-]+\n",
    "EMAILADDRESS %\x7bEMAILLOCALPART\x7d@%\x7bHOSTNAME\x7d\n",
    "INT (?:[+-]?(?:[0-9]+))\n",
    "BASE10NUM (?<![0-9.+-])(?>[+-]?(?:(?:[0-9]+(?:\\.[0-9]+)?)|(?:\\.[0-9]+)))\n",
    "NUMBER (?:%\x7bBASE10NUM\x7d)\n",
    "BASE16NUM (?<![0-9A-Fa-f])(?:[+-]?(?:0x)?(?:[0-9A-Fa-f]+))\n",
    "POSINT \\b(?:[1-9][0-9]*)\\b\n",
    "NONNEGINT \\b(?:[0-9]+)\\b\n",
    "WORD \\b\\w+\\b\n",
    "NOTSPACE \\S+\n",
    "SPACE \\s*\n",
    "DATA .*?\n",
    "GREEDYDATA .*\n",
    "QUOTEDSTRING (?>(?<!\\\\)(?>\"(?>\\\\.|[^\\\\\"]+)+\"|\"\"|(?>'(?>\\\\.|[^\\\\']+)+')|''|(?>`(?>\\\\.|[^\\\\`]+)+`)|``))\n",
    "QS %\x7bQUOTEDSTRING\x7d\n",
    "UUID [A-Fa-f0-9]\x7b8\x7d-(?:[A-Fa-f0-9]\x7b4\x7d-)\x7b3\x7d[A-Fa-f0-9]\x7b12\x7d\n",
    "\n",
    "# 网络\n",
    "CISCOMAC (?:(?:[A-Fa-f0-9]\x7b4\x7d\\.)\x7b2\x7d[A-Fa-f0-9]\x7b4\x7d)\n",
    "WINDOWSMAC (?:(?:[A-Fa-f0-9]\x7b2\x7d-)\x7b5\x7d[A-Fa-f0-9]\x7b2\x7d)\n",
    "COMMONMAC (?:(?:[A-Fa-f0-9]\x7b2\x7d:)\x7b5\x7d[A-Fa-f0-9]\x7b2\x7d)\n",
    "MAC (?:%\x7bCISCOMAC\x7d|%\x7bWINDOWSMAC\x7d|%\x7bCOMMONMAC\x7d)\n",
    "IPV6 (?:(?:[0-9A-Fa-f]\x7b1,4\x7d:)\x7b7\x7d[0-9A-Fa-f]\x7b1,4\x7d|(?:[0-9A-Fa-f]\x7b1,4\x7d:)\x7b1,6\x7d:[0-9A-Fa-f]\x7b1,4\x7d|(?:[0-9A-Fa-f]\x7b1,4\x7d:)\x7b1,7\x7d:|::(?:[0-9A-Fa-f]\x7b1,4\x7d:)\x7b0,6\x7d[0-9A-Fa-f]\x7b1,4\x7d|::)\n",
    "IPV4 (?<![0-9])(?:(?:[0-1]?[0-9]\x7b1,2\x7d|2[0-4][0-9]|25[0-5])[.](?:[0-1]?[0-9]\x7b1,2\x7d|2[0-4][0-9]|25[0-5])[.](?:[0-1]?[0-9]\x7b1,2\x7d|2[0-4][0-9]|25[0-5])[.](?:[0-1]?[0-9]\x7b1,2\x7d|2[0-4][0-9]|25[0-5]))(?![0-9])\n",
    "IP (?:%\x7bIPV6\x7d|%\x7bIPV4\x7d)\n",
    "HOSTNAME \\b(?:[0-9A-Za-z][0-9A-Za-z-]\x7b0,62\x7d)(?:\\.(?:[0-9A-Za-z][0-9A-Za-z-]\x7b0,62\x7d))*(?:\\.?|\\b)\n",
    "HOST %\x7bHOSTNAME\x7d\n",
    "IPORHOST (?:%\x7bIP\x7d|%\x7bHOSTNAME\x7d)\n",
    "HOSTPORT %\x7bIPORHOST\x7d:%\x7bPOSINT\x7d\n",
    "\n",
    "# 路径与 URI\n",
    "UNIXPATH (?:/[\\w%!$@:.,+~-]*)+\n",
    "WINPATH (?>[A-Za-z]+:|\\\\)(?:\\\\[^\\\\?*]*)+\n",
    "PATH (?:%\x7bUNIXPATH\x7d|%\x7bWINPATH\x7d)\n",
    "URIPROTO [A-Za-z][A-Za-z0-9+.-]+\n",
    "URIHOST %\x7bIPORHOST\x7d(?::%\x7bPOSINT\x7d)?\n",
    "URIPATH (?:/[A-Za-z0-9$.+!*'()\x7b\x7d,~:;=@#%&_-]*)+\n",
    "URIPARAM \\?[A-Za-z0-9$.+!*'|()\x7b\x7d,~@#%&/=:;_?\\[\\]<>-]*\n",
    "URIPATHPARAM %\x7bURIPATH\x7d(?:%\x7bURIPARAM\x7d)?\n",
    "URI %\x7bURIPROTO\x7d://(?:%\x7bUSER\x7d(?::[^@]*)?@)?(?:%\x7bURIHOST\x7d)?(?:%\x7bURIPATHPARAM\x7d)?\n",
    "\n",
    "# 日期与时间\n",
    "MONTH \\b(?:[Jj]an(?:uary)?|[Ff]eb(?:ruary)?|[Mm]ar(?:ch)?|[Aa]pr(?:il)?|[Mm]ay|[Jj]un(?:e)?|[Jj]ul(?:y)?|[Aa]ug(?:ust)?|[Ss]ep(?:tember)?|[Oo]ct(?:ober)?|[Nn]ov(?:ember)?|[Dd]ec(?:ember)?)\\b\n",
    "MONTHNUM (?:0?[1-9]|1[0-2])\n",
    "MONTHDAY (?:(?:0[1-9])|(?:[12][0-9])|(?:3[01])|[1-9])\n",
    "DAY (?:Mon(?:day)?|Tue(?:sday)?|Wed(?:nesday)?|Thu(?:rsday)?|Fri(?:day)?|Sat(?:urday)?|Sun(?:day)?)\n",
    "YEAR (?:\\d\\d)\x7b1,2\x7d\n",
    "HOUR (?:2[0123]|[01]?[0-9])\n",
    "MINUTE (?:[0-5][0-9])\n",
    "SECOND (?:(?:[0-5]?[0-9]|60)(?:[:.,][0-9]+)?)\n",
    "TIME (?<![0-9])%\x7bHOUR\x7d:%\x7bMINUTE\x7d(?::%\x7bSECOND\x7d)(?![0-9])\n",
    "DATE_US %\x7bMONTHNUM\x7d[/-]%\x7bMONTHDAY\x7d[/-]%\x7bYEAR\x7d\n",
    "DATE_EU %\x7bMONTHDAY\x7d[./-]%\x7bMONTHNUM\x7d[./-]%\x7bYEAR\x7d\n",
    "DATE %\x7bDATE_US\x7d|%\x7bDATE_EU\x7d\n",
    "DATESTAMP %\x7bDATE\x7d[- ]%\x7bTIME\x7d\n",
    "TZ (?:[APMCE][SD]T|UTC)\n",
    "ISO8601_TIMEZONE (?:Z|[+-]%\x7bHOUR\x7d(?::?%\x7bMINUTE\x7d))\n",
    "TIMESTAMP_ISO8601 %\x7bYEAR\x7d-%\x7bMONTHNUM\x7d-%\x7bMONTHDAY\x7d[T ]%\x7bHOUR\x7d:?%\x7bMINUTE\x7d(?::?%\x7bSECOND\x7d)?%\x7bISO8601_TIMEZONE\x7d?\n",
    "HTTPDATE %\x7bMONTHDAY\x7d/%\x7bMONTH\x7d/%\x7bYEAR\x7d:%\x7bTIME\x7d %\x7bINT\x7d\n",
    "SYSLOGTIMESTAMP %\x7bMONTH\x7d +%\x7bMONTHDAY\x7d %\x7bTIME\x7d\n",
    "\n",
    "# 日志\n",
    "LOGLEVEL (?:[Aa]lert|ALERT|[Tt]race|TRACE|[Dd]ebug|DEBUG|[Nn]otice|NOTICE|[Ii]nfo|INFO|[Ww]arn?(?:ing)?|WARN?(?:ING)?|[Ee]rr?(?:or)?|ERR?(?:OR)?|[Cc]rit?(?:ical)?|CRIT?(?:ICAL)?|[Ff]atal|FATAL|[Ss]evere|SEVERE|EMERG(?:ENCY)?|[Ee]merg(?:ency)?)\n",
    "PROG [\\x21-\\x5a\\x5c\\x5e-\\x7e]+\n",
    "SYSLOGPROG %\x7bPROG:program\x7d(?:\\[%\x7bPOSINT:pid\x7d\\])?\n",
    "SYSLOGHOST %\x7bIPORHOST\x7d\n",
    "SYSLOGFACILITY <%\x7bNONNEGINT:facility\x7d.%\x7bNONNEGINT:priority\x7d>\n",
    "SYSLOGBASE %\x7bSYSLOGTIMESTAMP:timestamp\x7d (?:%\x7bSYSLOGFACILITY\x7d )?%\x7bSYSLOGHOST:logsource\x7d %\x7bSYSLOGPROG\x7d:\n",
    "HTTPDUSER %\x7bEMAILADDRESS\x7d|%\x7bUSER\x7d\n",
    "COMMONAPACHELOG %\x7bIPORHOST:clientip\x7d %\x7bHTTPDUSER:ident\x7d %\x7bUSER:auth\x7d \\[%\x7bHTTPDATE:timestamp\x7d\\] \"(?:%\x7bWORD:verb\x7d %\x7bNOTSPACE:request\x7d(?: HTTP/%\x7bNUMBER:httpversion\x7d)?|%\x7bDATA:rawrequest\x7d)\" %\x7bNUMBER:response\x7d (?:%\x7bNUMBER:bytes\x7d|-)\n",
    "COMBINEDAPACHELOG %\x7bCOMMONAPACHELOG\x7d %\x7bQS:referrer\x7d %\x7bQS:agent\x7d\n"] : List String).flatMap String.toList

def builtinOrigin : Text := "<embedded>"

def builtin : Report Dictionary := PatternFile.read builtinFile builtinOrigin

end Grok.Library
