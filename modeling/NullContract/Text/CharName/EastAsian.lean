namespace NullContract.CharName

def eastAsianNames : String :=
    ":3000aIDEOGRAPHIC_SPACEbCOMMAbFULL_STOPaDITTO_MARKaJAPANESE_INDUSTRIAL_STANDARD_SYMBOL
    aIDEOGRAPHIC_ITERATION_MARKbCLOSING_MARKbNUMBER_ZEROaLEFT_ANGLE_BRACKETaRIGHT_ANGLE_BRACKET
    aLEFT_DOUBLE_ANGLE_BRACKETaRIGHT_DOUBLE_ANGLE_BRACKETaLEFT_CORNER_BRACKETaRIGHT_CORNER_BRACKET
    aLEFT_WHITE_CORNER_BRACKETaRIGHT_WHITE_CORNER_BRACKETaLEFT_BLACK_LENTICULAR_BRACKET
    aRIGHT_BLACK_LENTICULAR_BRACKETaPOSTAL_MARKaGETA_MARKaLEFT_TORTOISE_SHELL_BRACKETaRIGHT_TORTOISE_SHELL_BRACKET
    aLEFT_WHITE_LENTICULAR_BRACKETaRIGHT_WHITE_LENTICULAR_BRACKETaLEFT_WHITE_TORTOISE_SHELL_BRACKET
    aRIGHT_WHITE_TORTOISE_SHELL_BRACKETaLEFT_WHITE_SQUARE_BRACKETaRIGHT_WHITE_SQUARE_BRACKETaWAVE_DASH
    aREVERSED_DOUBLE_PRIME_QUOTATION_MARKaDOUBLE_PRIME_QUOTATION_MARKaLOW_DOUBLE_PRIME_QUOTATION_MARK
    aPOSTAL_MARK_FACEaHANGZHOU_NUMERAL_ONEcTWOcTHREEcFOURcFIVEcSIXcSEVENcEIGHTcNINEaIDEOGRAPHIC_LEVEL_TONE_MARK
    bRISING_TONE_MARKbDEPARTING_TONE_MARKbENTERING_TONE_MARKaHANGUL_SINGLE_DOT_TONE_MARKbDOUBLE_DOT_TONE_MARK
    aWAVY_DASHaVERTICAL_KANA_REPEAT_MARKdWITH_VOICED_SOUND_MARKdMARK_UPPER_HALFdWITH_VOICED_SOUND_MARK_UPPER_HALF
    dMARK_LOWER_HALFaCIRCLED_POSTAL_MARKaIDEOGRAPHIC_TELEGRAPH_LINE_FEED_SEPARATOR_SYMBOLaHANGZHOU_NUMERAL_TEN
    cTWENTYcTHIRTYaVERTICAL_IDEOGRAPHIC_ITERATION_MARKaMASU_MARKaPART_ALTERNATION_MARK
    aIDEOGRAPHIC_VARIATION_INDICATORbHALF_FILL_SPACE:3041aHIRAGANA_LETTER_SMALL_AcAcSMALL_IcIcSMALL_UcUcSMALL_EcE
    cSMALL_OcOcKAcGAcKIcGIcKUcGUcKEcGEcKOcGOcSAcZAcSIcZIcSUcZUcSEcZEcSOcZOcTAcDAcTIcDIcSMALL_TUcTUcDUcTEcDEcTOcDOcNA
    cNIcNUcNEcNOcHAcBAcPAcHIcBIcPIcHUcBUcPUcHEcBEcPEcHOcBOcPOcMAcMIcMUcMEcMOcSMALL_YAcYAcSMALL_YUcYUcSMALL_YOcYOcRA
    cRIcRUcREcROcSMALL_WAcWAcWIcWEcWOcNcVUcSMALL_KAdKE:3099aCOMBINING_KATAKANA-HIRAGANA_VOICED_SOUND_MARK
    cSEMI-VOICED_SOUND_MARKaKATAKANA-HIRAGANA_VOICED_SOUND_MARKbSEMI-VOICED_SOUND_MARKaHIRAGANA_ITERATION_MARK
    bVOICED_ITERATION_MARKbDIGRAPH_YORIaKATAKANA-HIRAGANA_DOUBLE_HYPHENaKATAKANA_LETTER_SMALL_AcAcSMALL_IcIcSMALL_U
    cUcSMALL_EcEcSMALL_OcOcKAcGAcKIcGIcKUcGUcKEcGEcKOcGOcSAcZAcSIcZIcSUcZUcSEcZEcSOcZOcTAcDAcTIcDIcSMALL_TUcTUcDUcTE
    cDEcTOcDOcNAcNIcNUcNEcNOcHAcBAcPAcHIcBIcPIcHUcBUcPUcHEcBEcPEcHOcBOcPOcMAcMIcMUcMEcMOcSMALL_YAcYAcSMALL_YUcYU
    cSMALL_YOcYOcRAcRIcRUcREcROcSMALL_WAcWAcWIcWEcWOcNcVUcSMALL_KAdKEcVAcVIcVEcVObMIDDLE_DOT
    aKATAKANA-HIRAGANA_PROLONGED_SOUND_MARKaKATAKANA_ITERATION_MARKbVOICED_ITERATION_MARKbDIGRAPH_KOTO
    :3105aBOPOMOFO_LETTER_BcPcMcFcDcTcNcLcGcKcHcJcQcXcZHcCHcSHcRcZcCcScAcOcEcEHcAIcEIcAUcOUcANcENcANGcENGcERcIcUcIU
    cVcNGcGNcIHcO_WITH_DOT_ABOVEcNN:3131aHANGUL_LETTER_KIYEOKcSSANGKIYEOKcKIYEOK-SIOScNIEUNcNIEUN-CIEUCcNIEUN-HIEUH
    cTIKEUTcSSANGTIKEUTcRIEULcRIEUL-KIYEOKcRIEUL-MIEUMcRIEUL-PIEUPcRIEUL-SIOScRIEUL-THIEUTHcRIEUL-PHIEUPH
    cRIEUL-HIEUHcMIEUMcPIEUPcSSANGPIEUPcPIEUP-SIOScSIOScSSANGSIOScIEUNGcCIEUCcSSANGCIEUCcCHIEUCHcKHIEUKHcTHIEUTH
    cPHIEUPHcHIEUHcAcAEcYAcYAEcEOcEcYEOcYEcOcWAcWAEcOEcYOcUcWEOcWEcWIcYUcEUcYIcIbFILLERbLETTER_SSANGNIEUN
    cNIEUN-TIKEUTcNIEUN-SIOScNIEUN-PANSIOScRIEUL-KIYEOK-SIOScRIEUL-TIKEUTcRIEUL-PIEUP-SIOScRIEUL-PANSIOS
    cRIEUL-YEORINHIEUHcMIEUM-PIEUPcMIEUM-SIOScMIEUM-PANSIOScKAPYEOUNMIEUMcPIEUP-KIYEOKcPIEUP-TIKEUT
    cPIEUP-SIOS-KIYEOKcPIEUP-SIOS-TIKEUTcPIEUP-CIEUCcPIEUP-THIEUTHcKAPYEOUNPIEUPcKAPYEOUNSSANGPIEUPcSIOS-KIYEOK
    cSIOS-NIEUNcSIOS-TIKEUTcSIOS-PIEUPcSIOS-CIEUCcPANSIOScSSANGIEUNGcYESIEUNGcYESIEUNG-SIOScYESIEUNG-PANSIOS
    cKAPYEOUNPHIEUPHcSSANGHIEUHcYEORINHIEUHcYO-YAcYO-YAEcYO-IcYU-YEOcYU-YEcYU-IcARAEAcARAEAE
    :3190aIDEOGRAPHIC_ANNOTATION_LINKING_MARKcREVERSE_MARKcONE_MARKcTWO_MARKcTHREE_MARKcFOUR_MARKcTOP_MARK
    cMIDDLE_MARKcBOTTOM_MARKcFIRST_MARKcSECOND_MARKcTHIRD_MARKcFOURTH_MARKcHEAVEN_MARKcEARTH_MARKcMAN_MARK
    aBOPOMOFO_LETTER_BUcZIcJIcGUcEEcENNcOOcONNcIRcANNcINNcUNNcIMcNGGcAINNcAUNNcAMcOMcONGcINNNbFINAL_LETTER_PdTdKdH
    bLETTER_GHcLHcZYbFINAL_LETTER_GbLETTER_GWcKWcOEcAHaCJK_STROKE_TcWGcXGcBXGcSWcHZZcHZGcHPcHZWGcSZWGcHZTcHZZPcHPWG
    cHZWcHZZZcNcHcScPcSPcDcHZcHGcSZcSWZcSTcSGcPDcPZcTNcSZZcSWGcHXWGcHZZZGcPGcQ:31F0aKATAKANA_LETTER_SMALL_KUdSIdSU
    dTOdNUdHAdHIdHUdHEdHOdMUdRAdRIdRUdREdROaPARENTHESIZED_HANGUL_KIYEOKcNIEUNcTIKEUTcRIEULcMIEUMcPIEUPcSIOScIEUNG
    cCIEUCcCHIEUCHcKHIEUKHcTHIEUTHcPHIEUPHcHIEUHcKIYEOK_AcNIEUN_AcTIKEUT_AcRIEUL_AcMIEUM_AcPIEUP_AcSIOS_AcIEUNG_A
    cCIEUC_AcCHIEUCH_AcKHIEUKH_AcTHIEUTH_AcPHIEUPH_AcHIEUH_AcCIEUC_UbKOREAN_CHARACTER_OJEONdO_HU:3220bIDEOGRAPH_ONE
    cTWOcTHREEcFOURcFIVEcSIXcSEVENcEIGHTcNINEcTENcMOONcFIREcWATERcWOODcMETALcEARTHcSUNcSTOCKcHAVEcSOCIETYcNAME
    cSPECIALcFINANCIALcCONGRATULATIONcLABORcREPRESENTcCALLcSTUDYcSUPERVISEcENTERPRISEcRESOURCEcALLIANCEcFESTIVAL
    cRESTcSELFcREACHaCIRCLED_IDEOGRAPH_QUESTIONcKINDERGARTENcSCHOOLcKOTObNUMBER_TEN_ON_BLACK_SQUARE
    cTWENTY_ON_BLACK_SQUAREcTHIRTY_ON_BLACK_SQUAREcFORTY_ON_BLACK_SQUAREcFIFTY_ON_BLACK_SQUAREcSIXTY_ON_BLACK_SQUARE
    cSEVENTY_ON_BLACK_SQUAREcEIGHTY_ON_BLACK_SQUAREaPARTNERSHIP_SIGNaCIRCLED_NUMBER_TWENTY_ONEdTWOdTHREEdFOURdFIVE
    dSIXdSEVENdEIGHTdNINEcTHIRTYdONEdTWOdTHREEdFOURdFIVEbHANGUL_KIYEOKcNIEUNcTIKEUTcRIEULcMIEUMcPIEUPcSIOScIEUNG
    cCIEUCcCHIEUCHcKHIEUKHcTHIEUTHcPHIEUPHcHIEUHcKIYEOK_AcNIEUN_AcTIKEUT_AcRIEUL_AcMIEUM_AcPIEUP_AcSIOS_AcIEUNG_A
    cCIEUC_AcCHIEUCH_AcKHIEUKH_AcTHIEUTH_AcPHIEUPH_AcHIEUH_AbKOREAN_CHARACTER_CHAMKOdJUEUIbHANGUL_IEUNG_U
    aKOREAN_STANDARD_SYMBOLaCIRCLED_IDEOGRAPH_ONEcTWOcTHREEcFOURcFIVEcSIXcSEVENcEIGHTcNINEcTENcMOONcFIREcWATERcWOOD
    cMETALcEARTHcSUNcSTOCKcHAVEcSOCIETYcNAMEcSPECIALcFINANCIALcCONGRATULATIONcLABORcSECRETcMALEcFEMALEcSUITABLE
    cEXCELLENTcPRINTcATTENTIONcITEMcRESTcCOPYcCORRECTcHIGHcCENTREcLOWcLEFTcRIGHTcMEDICINEcRELIGIONcSTUDYcSUPERVISE
    cENTERPRISEcRESOURCEcALLIANCEcNIGHTbNUMBER_THIRTY_SIXdSEVENdEIGHTdNINEcFORTYdONEdTWOdTHREEdFOURdFIVEdSIXdSEVEN
    dEIGHTdNINEcFIFTYaIDEOGRAPHIC_TELEGRAPH_SYMBOL_FOR_JANUARYeFEBRUARYeMARCHeAPRILeMAYeJUNEeJULYeAUGUSTeSEPTEMBER
    eOCTOBEReNOVEMBEReDECEMBERaSQUARE_HGbERGbEVaLIMITED_LIABILITY_SIGNaCIRCLED_KATAKANA_AcIcUcEcOcKAcKIcKUcKEcKOcSA
    cSIcSUcSEcSOcTAcTIcTUcTEcTOcNAcNIcNUcNEcNOcHAcHIcHUcHEcHOcMAcMIcMUcMEcMOcYAcYUcYOcRAcRIcRUcREcROcWAcWIcWEcWO
    aSQUARE_ERA_NAME_REIWAbAPAATObARUHUAbANPEAbAARUbININGUbINTIbUONbESUKUUDObEEKAAbONSUbOOMUbKAIRIbKARATTObKARORII
    bGARONbGANMAbGIGAbGINIIbKYURIIbGIRUDAAbKIRObKIROGURAMUbKIROMEETORUbKIROWATTObGURAMUbGURAMUTONbKURUZEIRObKUROONE
    bKEESUbKORUNAbKOOPObSAIKURUbSANTIIMUbSIRINGUbSENTIbSENTObDAASUbDESIbDORUbTONbNANObNOTTObHAITUbPAASENTObPAATU
    bBAARERUbPIASUTORUbPIKURUbPIKObBIRUbHUARADDObHUIITObBUSSYERUbHURANbHEKUTAARUbPESObPENIHIbHERUTUbPENSUbPEEZI
    bBEETAbPOINTObBORUTObHONbPONDObHOORUbHOONbMAIKURObMAIRUbMAHHAbMARUKUbMANSYONbMIKURONbMIRIbMIRIBAARUbMEGAbMEGATON
    bMEETORUbYAADObYAARUbYUANbRITTORUbRIRAbRUPIIbRUUBURUbREMUbRENTOGENbWATTO
    aIDEOGRAPHIC_TELEGRAPH_SYMBOL_FOR_HOUR_ZEROfONEfTWOfTHREEfFOURfFIVEfSIXfSEVENfEIGHTfNINEfTENfELEVENfTWELVE
    fTHIRTEENfFOURTEENfFIFTEENfSIXTEENfSEVENTEENfEIGHTEENfNINETEENfTWENTYfTWENTY-ONEfTWENTY-TWOfTWENTY-THREE
    fTWENTY-FOURaSQUARE_HPAbDAbAUbBARbOVbPCbDMcSQUAREDcCUBEDbIUbERA_NAME_HEISEIdSYOUWAdTAISYOUdMEIZIbCORPORATION
    bPA_AMPSbNAbMU_AbMAbKAbKBbMBbGBbCALbKCALbPFbNFbMU_FcGbMGbKGbHZbKHZbMHZbGHZbTHZbMU_LbMLbDLbKLbFMbNMbMU_MbMMbCMbKM
    bMM_SQUAREDbCM_SQUAREDbM_SQUAREDbKM_SQUAREDbMM_CUBEDbCM_CUBEDbM_CUBEDbKM_CUBEDbM_OVER_SeSQUAREDbPAbKPAbMPAbGPA
    bRADcOVER_SeSQUAREDbPSbNSbMU_SbMSbPVbNVbMU_VbMVbKVbMV_MEGAbPWbNWbMU_WbMWbKWbMW_MEGAbK_OHMbM_OHMbAMbBQbCCbCD
    bC_OVER_KGbCObDBbGYbHAbHPbINbKKbKM_CAPITALbKTbLMbLNbLOGbLXbMB_SMALLbMILbMOLbPHbPMbPPMbPRbSRbSVbWBbV_OVER_M
    bA_OVER_MaIDEOGRAPHIC_TELEGRAPH_SYMBOL_FOR_DAY_ONEfTWOfTHREEfFOURfFIVEfSIXfSEVENfEIGHTfNINEfTENfELEVENfTWELVE
    fTHIRTEENfFOURTEENfFIFTEENfSIXTEENfSEVENTEENfEIGHTEENfNINETEENfTWENTYfTWENTY-ONEfTWENTY-TWOfTWENTY-THREE
    fTWENTY-FOURfTWENTY-FIVEfTWENTY-SIXfTWENTY-SEVENfTWENTY-EIGHTfTWENTY-NINEfTHIRTYfTHIRTY-ONEaSQUARE_GAL
    :4DC0aHEXAGRAM_FOR_THE_CREATIVE_HEAVENdRECEPTIVE_EARTHcDIFFICULTY_AT_THE_BEGINNINGcYOUTHFUL_FOLLYcWAITING
    cCONFLICTcTHE_ARMYcHOLDING_TOGETHERcSMALL_TAMINGcTREADINGcPEACEcSTANDSTILLcFELLOWSHIPcGREAT_POSSESSIONcMODESTY
    cENTHUSIASMcFOLLOWINGcWORK_ON_THE_DECAYEDcAPPROACHcCONTEMPLATIONcBITING_THROUGHcGRACEcSPLITTING_APARTcRETURN
    cINNOCENCEcGREAT_TAMINGcMOUTH_CORNERScGREAT_PREPONDERANCEcTHE_ABYSMAL_WATERdCLINGING_FIREcINFLUENCEcDURATION
    cRETREATcGREAT_POWERcPROGRESScDARKENING_OF_THE_LIGHTcTHE_FAMILYcOPPOSITIONcOBSTRUCTIONcDELIVERANCEcDECREASE
    cINCREASEcBREAKTHROUGHcCOMING_TO_MEETcGATHERING_TOGETHERcPUSHING_UPWARDcOPPRESSIONcTHE_WELLcREVOLUTION
    cTHE_CAULDRONdAROUSING_THUNDERdKEEPING_STILL_MOUNTAINcDEVELOPMENTcTHE_MARRYING_MAIDENcABUNDANCEcTHE_WANDERER
    dGENTLE_WINDdJOYOUS_LAKEcDISPERSIONcLIMITATIONcINNER_TRUTHcSMALL_PREPONDERANCEcAFTER_COMPLETION
    cBEFORE_COMPLETION:A000aYI_SYLLABLE_ITcIXcIcIPcIETcIEXcIEcIEPcATcAXcAcAPcUOXcUOcUOPcOTcOXcOcOPcEXcEcWUcBITcBIX
    cBIcBIPcBIETcBIEXcBIEcBIEPcBATcBAXcBAcBAPcBUOXcBUOcBUOPcBOTcBOXcBOcBOPcBEXcBEcBEPcBUTcBUXcBUcBUPcBURXcBURcBYT
    cBYXcBYcBYPcBYRXcBYRcPITcPIXcPIcPIPcPIEXcPIEcPIEPcPATcPAXcPAcPAPcPUOXcPUOcPUOPcPOTcPOXcPOcPOPcPUTcPUXcPUcPUP
    cPURXcPURcPYTcPYXcPYcPYPcPYRXcPYRcBBITcBBIXcBBIcBBIPcBBIETcBBIEXcBBIEcBBIEPcBBATcBBAXcBBAcBBAPcBBUOXcBBUOcBBUOP
    cBBOTcBBOXcBBOcBBOPcBBEXcBBEcBBEPcBBUTcBBUXcBBUcBBUPcBBURXcBBURcBBYTcBBYXcBBYcBBYPcNBITcNBIXcNBIcNBIPcNBIEXcNBIE
    cNBIEPcNBATcNBAXcNBAcNBAPcNBOTcNBOXcNBOcNBOPcNBUTcNBUXcNBUcNBUPcNBURXcNBURcNBYTcNBYXcNBYcNBYPcNBYRXcNBYRcHMIT
    cHMIXcHMIcHMIPcHMIEXcHMIEcHMIEPcHMATcHMAXcHMAcHMAPcHMUOXcHMUOcHMUOPcHMOTcHMOXcHMOcHMOPcHMUTcHMUXcHMUcHMUPcHMURX
    cHMURcHMYXcHMYcHMYPcHMYRXcHMYRcMITcMIXcMIcMIPcMIEXcMIEcMIEPcMATcMAXcMAcMAPcMUOTcMUOXcMUOcMUOPcMOTcMOXcMOcMOPcMEX
    cMEcMUTcMUXcMUcMUPcMURXcMURcMYTcMYXcMYcMYPcFITcFIXcFIcFIPcFATcFAXcFAcFAPcFOXcFOcFOPcFUTcFUXcFUcFUPcFURXcFURcFYT
    cFYXcFYcFYPcVITcVIXcVIcVIPcVIETcVIEXcVIEcVIEPcVATcVAXcVAcVAPcVOTcVOXcVOcVOPcVEXcVEPcVUTcVUXcVUcVUPcVURXcVURcVYT
    cVYXcVYcVYPcVYRXcVYRcDITcDIXcDIcDIPcDIEXcDIEcDIEPcDATcDAXcDAcDAPcDUOXcDUOcDOTcDOXcDOcDOPcDEXcDEcDEPcDUTcDUXcDU
    cDUPcDURXcDURcTITcTIXcTIcTIPcTIEXcTIEcTIEPcTATcTAXcTAcTAPcTUOTcTUOXcTUOcTUOPcTOTcTOXcTOcTOPcTEXcTEcTEPcTUTcTUX
    cTUcTUPcTURXcTURcDDITcDDIXcDDIcDDIPcDDIEXcDDIEcDDIEPcDDATcDDAXcDDAcDDAPcDDUOXcDDUOcDDUOPcDDOTcDDOXcDDOcDDOPcDDEX
    cDDEcDDEPcDDUTcDDUXcDDUcDDUPcDDURXcDDURcNDITcNDIXcNDIcNDIPcNDIEXcNDIEcNDATcNDAXcNDAcNDAPcNDOTcNDOXcNDOcNDOPcNDEX
    cNDEcNDEPcNDUTcNDUXcNDUcNDUPcNDURXcNDURcHNITcHNIXcHNIcHNIPcHNIETcHNIEXcHNIEcHNIEPcHNATcHNAXcHNAcHNAPcHNUOXcHNUO
    cHNOTcHNOXcHNOPcHNEXcHNEcHNEPcHNUTcNITcNIXcNIcNIPcNIEXcNIEcNIEPcNAXcNAcNAPcNUOXcNUOcNUOPcNOTcNOXcNOcNOPcNEXcNE
    cNEPcNUTcNUXcNUcNUPcNURXcNURcHLITcHLIXcHLIcHLIPcHLIEXcHLIEcHLIEPcHLATcHLAXcHLAcHLAPcHLUOXcHLUOcHLUOPcHLOXcHLO
    cHLOPcHLEXcHLEcHLEPcHLUTcHLUXcHLUcHLUPcHLURXcHLURcHLYTcHLYXcHLYcHLYPcHLYRXcHLYRcLITcLIXcLIcLIPcLIETcLIEXcLIE
    cLIEPcLATcLAXcLAcLAPcLUOTcLUOXcLUOcLUOPcLOTcLOXcLOcLOPcLEXcLEcLEPcLUTcLUXcLUcLUPcLURXcLURcLYTcLYXcLYcLYPcLYRX
    cLYRcGITcGIXcGIcGIPcGIETcGIEXcGIEcGIEPcGATcGAXcGAcGAPcGUOTcGUOXcGUOcGUOPcGOTcGOXcGOcGOPcGETcGEXcGEcGEPcGUTcGUX
    cGUcGUPcGURXcGURcKITcKIXcKIcKIPcKIEXcKIEcKIEPcKATcKAXcKAcKAPcKUOXcKUOcKUOPcKOTcKOXcKOcKOPcKETcKEXcKEcKEPcKUTcKUX
    cKUcKUPcKURXcKURcGGITcGGIXcGGIcGGIEXcGGIEcGGIEPcGGATcGGAXcGGAcGGAPcGGUOTcGGUOXcGGUOcGGUOPcGGOTcGGOXcGGOcGGOP
    cGGETcGGEXcGGEcGGEPcGGUTcGGUXcGGUcGGUPcGGURXcGGURcMGIEXcMGIEcMGATcMGAXcMGAcMGAPcMGUOXcMGUOcMGUOPcMGOTcMGOXcMGO
    cMGOPcMGEXcMGEcMGEPcMGUTcMGUXcMGUcMGUPcMGURXcMGURcHXITcHXIXcHXIcHXIPcHXIETcHXIEXcHXIEcHXIEPcHXATcHXAXcHXAcHXAP
    cHXUOTcHXUOXcHXUOcHXUOPcHXOTcHXOXcHXOcHXOPcHXEXcHXEcHXEPcNGIEXcNGIEcNGIEPcNGATcNGAXcNGAcNGAPcNGUOTcNGUOXcNGUO
    cNGOTcNGOXcNGOcNGOPcNGEXcNGEcNGEPcHITcHIEXcHIEcHATcHAXcHAcHAPcHUOTcHUOXcHUOcHUOPcHOTcHOXcHOcHOPcHEXcHEcHEPcWAT
    cWAXcWAcWAPcWUOXcWUOcWUOPcWOXcWOcWOPcWEXcWEcWEPcZITcZIXcZIcZIPcZIEXcZIEcZIEPcZATcZAXcZAcZAPcZUOXcZUOcZUOPcZOT
    cZOXcZOcZOPcZEXcZEcZEPcZUTcZUXcZUcZUPcZURXcZURcZYTcZYXcZYcZYPcZYRXcZYRcCITcCIXcCIcCIPcCIETcCIEXcCIEcCIEPcCATcCAX
    cCAcCAPcCUOXcCUOcCUOPcCOTcCOXcCOcCOPcCEXcCEcCEPcCUTcCUXcCUcCUPcCURXcCURcCYTcCYXcCYcCYPcCYRXcCYRcZZITcZZIXcZZI
    cZZIPcZZIETcZZIEXcZZIEcZZIEPcZZATcZZAXcZZAcZZAPcZZOXcZZOcZZOPcZZEXcZZEcZZEPcZZUXcZZUcZZUPcZZURXcZZURcZZYTcZZYX
    cZZYcZZYPcZZYRXcZZYRcNZITcNZIXcNZIcNZIPcNZIEXcNZIEcNZIEPcNZATcNZAXcNZAcNZAPcNZUOXcNZUOcNZOXcNZOPcNZEXcNZEcNZUX
    cNZUcNZUPcNZURXcNZURcNZYTcNZYXcNZYcNZYPcNZYRXcNZYRcSITcSIXcSIcSIPcSIEXcSIEcSIEPcSATcSAXcSAcSAPcSUOXcSUOcSUOPcSOT
    cSOXcSOcSOPcSEXcSEcSEPcSUTcSUXcSUcSUPcSURXcSURcSYTcSYXcSYcSYPcSYRXcSYRcSSITcSSIXcSSIcSSIPcSSIEXcSSIEcSSIEPcSSAT
    cSSAXcSSAcSSAPcSSOTcSSOXcSSOcSSOPcSSEXcSSEcSSEPcSSUTcSSUXcSSUcSSUPcSSYTcSSYXcSSYcSSYPcSSYRXcSSYRcZHATcZHAXcZHA
    cZHAPcZHUOXcZHUOcZHUOPcZHOTcZHOXcZHOcZHOPcZHETcZHEXcZHEcZHEPcZHUTcZHUXcZHUcZHUPcZHURXcZHURcZHYTcZHYXcZHYcZHYP
    cZHYRXcZHYRcCHATcCHAXcCHAcCHAPcCHUOTcCHUOXcCHUOcCHUOPcCHOTcCHOXcCHOcCHOPcCHETcCHEXcCHEcCHEPcCHUXcCHUcCHUPcCHURX
    cCHURcCHYTcCHYXcCHYcCHYPcCHYRXcCHYRcRRAXcRRAcRRUOXcRRUOcRROTcRROXcRROcRROPcRRETcRREXcRREcRREPcRRUTcRRUXcRRUcRRUP
    cRRURXcRRURcRRYTcRRYXcRRYcRRYPcRRYRXcRRYRcNRATcNRAXcNRAcNRAPcNROXcNROcNROPcNRETcNREXcNREcNREPcNRUTcNRUXcNRUcNRUP
    cNRURXcNRURcNRYTcNRYXcNRYcNRYPcNRYRXcNRYRcSHATcSHAXcSHAcSHAPcSHUOXcSHUOcSHUOPcSHOTcSHOXcSHOcSHOPcSHETcSHEXcSHE
    cSHEPcSHUTcSHUXcSHUcSHUPcSHURXcSHURcSHYTcSHYXcSHYcSHYPcSHYRXcSHYRcRATcRAXcRAcRAPcRUOXcRUOcRUOPcROTcROXcROcROP
    cREXcREcREPcRUTcRUXcRUcRUPcRURXcRURcRYTcRYXcRYcRYPcRYRXcRYRcJITcJIXcJIcJIPcJIETcJIEXcJIEcJIEPcJUOTcJUOXcJUOcJUOP
    cJOTcJOXcJOcJOPcJUTcJUXcJUcJUPcJURXcJURcJYTcJYXcJYcJYPcJYRXcJYRcQITcQIXcQIcQIPcQIETcQIEXcQIEcQIEPcQUOTcQUOXcQUO
    cQUOPcQOTcQOXcQOcQOPcQUTcQUXcQUcQUPcQURXcQURcQYTcQYXcQYcQYPcQYRXcQYRcJJITcJJIXcJJIcJJIPcJJIETcJJIEXcJJIEcJJIEP
    cJJUOXcJJUOcJJUOPcJJOTcJJOXcJJOcJJOPcJJUTcJJUXcJJUcJJUPcJJURXcJJURcJJYTcJJYXcJJYcJJYPcNJITcNJIXcNJIcNJIPcNJIET
    cNJIEXcNJIEcNJIEPcNJUOXcNJUOcNJOTcNJOXcNJOcNJOPcNJUXcNJUcNJUPcNJURXcNJURcNJYTcNJYXcNJYcNJYPcNJYRXcNJYRcNYITcNYIX
    cNYIcNYIPcNYIETcNYIEXcNYIEcNYIEPcNYUOXcNYUOcNYUOPcNYOTcNYOXcNYOcNYOPcNYUTcNYUXcNYUcNYUPcXITcXIXcXIcXIPcXIETcXIEX
    cXIEcXIEPcXUOXcXUOcXOTcXOXcXOcXOPcXYTcXYXcXYcXYPcXYRXcXYRcYITcYIXcYIcYIPcYIETcYIEXcYIEcYIEPcYUOTcYUOXcYUOcYUOP
    cYOTcYOXcYOcYOPcYUTcYUXcYUcYUPcYURXcYURcYYTcYYXcYYcYYPcYYRXcYYR:A490bRADICAL_QOTcLIcKITcNYIPcCYPcSSIcGGOPcGEPcMI
    cHXITcLYRcBBUTcMOPcYOcPUTcHXUOcTATcGAcZUPcCYTcDDURcBURcGGUOcNYOPcTUcOPcJJUTcZOTcPYTcHMOcYITcVURcSHYcVEPcZAcJO
    cNZUPcJJYcGOTcJJIEcWOcDUcSHURcLIEcCYcCUOPcCIPcHXOPcSHATcZURcSHOPcCHEcZZIETcNBIEcKE:A4D0aLISU_LETTER_BAcPAcPHAcDA
    cTAcTHAcGAcKAcKHAcJAcCAcCHAcDZAcTSAcTSHAcMAcNAcLAcSAcZHAcZAcNGAcHAcXAcHHAcFAcWAcSHAcYAcGHAcAcAEcEcEUcIcOcUcUEcUH
    cOEcTONE_MYA_TIdNA_POdMYA_CYAeBOeNAeJEUbPUNCTUATION_COMMAcFULL_STOPaVAI_SYLLABLE_EEcEENcHEEcWEEcWEENcPEEcBHEE
    cBEEcMBEEcKPEEcMGBEEcGBEEcFEEcVEEcTEEcTHEEcDHEEcDHHEEcLEEcREEcDEEcNDEEcSEEcSHEEcZEEcZHEEcCEEcJEEcNJEEcYEEcKEE
    cNGGEEcGEEcMEEcNEEcNYEEcIcINcHIcHINcWIcWINcPIcBHIcBIcMBIcKPIcMGBIcGBIcFIcVIcTIcTHIcDHIcDHHIcLIcRIcDIcNDIcSIcSHI
    cZIcZHIcCIcJIcNJIcYIcKIcNGGIcGIcMIcNIcNYIcAcANcNGANcHAcHANcWAcWANcPAcBHAcBAcMBAcKPAcKPANcMGBAcGBAcFAcVAcTAcTHA
    cDHAcDHHAcLAcRAcDAcNDAcSAcSHAcZAcZHAcCAcJAcNJAcYAcKAcKANcNGGAcGAcMAcNAcNYAcOOcOONcHOOcWOOcWOONcPOOcBHOOcBOOcMBOO
    cKPOOcMGBOOcGBOOcFOOcVOOcTOOcTHOOcDHOOcDHHOOcLOOcROOcDOOcNDOOcSOOcSHOOcZOOcZHOOcCOOcJOOcNJOOcYOOcKOOcNGGOOcGOO
    cMOOcNOOcNYOOcUcUNcHUcHUNcWUcWUNcPUcBHUcBUcMBUcKPUcMGBUcGBUcFUcVUcTUcTHUcDHUcDHHUcLUcRUcDUcNDUcSUcSHUcZUcZHUcCU
    cJUcNJUcYUcKUcNGGUcGUcMUcNUcNYUcOcONcNGONcHOcHONcWOcWONcPOcBHOcBOcMBOcKPOcMGBOcGBOcGBONcFOcVOcTOcTHOcDHOcDHHOcLO
    cROcDOcNDOcSOcSHOcZOcZHOcCOcJOcNJOcYOcKOcNGGOcGOcMOcNOcNYOcEcENcNGENcHEcHENcWEcWENcPEcBHEcBEcMBEcKPEcKPENcMGBE
    cGBEcGBENcFEcVEcTEcTHEcDHEcDHHEcLEcREcDEcNDEcSEcSHEcZEcZHEcCEcJEcNJEcYEcKEcNGGEcNGGENcGEcGENcMEcNEcNYEcNG
    cLENGTHENERbCOMMAbFULL_STOPbQUESTION_MARKbSYLLABLE_NDOLE_FAdKAdSOObSYMBOL_FEENGcKEENGcTINGcNIIcBANGcFAAcTAAcDANG
    cDOONGcKUNGcTONGcDO-OcJONGbDIGIT_ZEROcONEcTWOcTHREEcFOURcFIVEcSIXcSEVENcEIGHTcNINEbSYLLABLE_NDOLE_MAdDO
    :A640aCYRILLIC_CAPITAL_LETTER_ZEMLYAbSMALL_LETTER_ZEMLYAbCAPITAL_LETTER_DZELObSMALL_LETTER_DZELO
    bCAPITAL_LETTER_REVERSED_DZEbSMALL_LETTER_REVERSED_DZEbCAPITAL_LETTER_IOTAbSMALL_LETTER_IOTA
    bCAPITAL_LETTER_DJERVbSMALL_LETTER_DJERVbCAPITAL_LETTER_MONOGRAPH_UKbSMALL_LETTER_MONOGRAPH_UK
    bCAPITAL_LETTER_BROAD_OMEGAbSMALL_LETTER_BROAD_OMEGAbCAPITAL_LETTER_NEUTRAL_YERbSMALL_LETTER_NEUTRAL_YER
    bCAPITAL_LETTER_YERU_WITH_BACK_YERbSMALL_LETTER_YERU_WITH_BACK_YERbCAPITAL_LETTER_IOTIFIED_YAT
    bSMALL_LETTER_IOTIFIED_YATbCAPITAL_LETTER_REVERSED_YUbSMALL_LETTER_REVERSED_YUbCAPITAL_LETTER_IOTIFIED_A
    bSMALL_LETTER_IOTIFIED_AbCAPITAL_LETTER_CLOSED_LITTLE_YUSbSMALL_LETTER_CLOSED_LITTLE_YUS
    bCAPITAL_LETTER_BLENDED_YUSbSMALL_LETTER_BLENDED_YUSbCAPITAL_LETTER_IOTIFIED_CLOSED_LITTLE_YUS
    bSMALL_LETTER_IOTIFIED_CLOSED_LITTLE_YUSbCAPITAL_LETTER_YNbSMALL_LETTER_YNbCAPITAL_LETTER_REVERSED_TSE
    bSMALL_LETTER_REVERSED_TSEbCAPITAL_LETTER_SOFT_DEbSMALL_LETTER_SOFT_DEbCAPITAL_LETTER_SOFT_EL
    bSMALL_LETTER_SOFT_ELbCAPITAL_LETTER_SOFT_EMbSMALL_LETTER_SOFT_EMbCAPITAL_LETTER_MONOCULAR_O
    bSMALL_LETTER_MONOCULAR_ObCAPITAL_LETTER_BINOCULAR_ObSMALL_LETTER_BINOCULAR_ObCAPITAL_LETTER_DOUBLE_MONOCULAR_O
    bSMALL_LETTER_DOUBLE_MONOCULAR_ObLETTER_MULTIOCULAR_OaCOMBINING_CYRILLIC_VZMETcTEN_MILLIONS_SIGN
    cHUNDRED_MILLIONS_SIGNcTHOUSAND_MILLIONS_SIGNaSLAVONIC_ASTERISKaCOMBINING_CYRILLIC_LETTER_UKRAINIAN_IEdIdYIdU
    dHARD_SIGNdYERUdSOFT_SIGNdOMEGAcKAVYKAcPAYEROKaCYRILLIC_KAVYKAbPAYEROKbCAPITAL_LETTER_DWEbSMALL_LETTER_DWE
    bCAPITAL_LETTER_DZWEbSMALL_LETTER_DZWEbCAPITAL_LETTER_ZHWEbSMALL_LETTER_ZHWEbCAPITAL_LETTER_CCHE
    bSMALL_LETTER_CCHEbCAPITAL_LETTER_DZZEbSMALL_LETTER_DZZEbCAPITAL_LETTER_TE_WITH_MIDDLE_HOOK
    bSMALL_LETTER_TE_WITH_MIDDLE_HOOKbCAPITAL_LETTER_TWEbSMALL_LETTER_TWEbCAPITAL_LETTER_TSWEbSMALL_LETTER_TSWE
    bCAPITAL_LETTER_TSSEbSMALL_LETTER_TSSEbCAPITAL_LETTER_TCHEbSMALL_LETTER_TCHEbCAPITAL_LETTER_HWEbSMALL_LETTER_HWE
    bCAPITAL_LETTER_SHWEbSMALL_LETTER_SHWEbCAPITAL_LETTER_DOUBLE_ObSMALL_LETTER_DOUBLE_ObCAPITAL_LETTER_CROSSED_O
    bSMALL_LETTER_CROSSED_OaMODIFIER_LETTER_CYRILLIC_HARD_SIGNdSOFT_SIGNaCOMBINING_CYRILLIC_LETTER_EFdIOTIFIED_E
    aBAMUM_LETTER_AcKAcUcKUcEEcREEcTAEcOcNYIcIcLAcPAcRIIcRIEEcLEEEEcMEEEEcTAAcNDAAcNJAEMcMcSUUcMUcSHIIcSIcSHEUXcSEUX
    cKYEEcKETcNUAEcNUcNJUAEcYOQcSHUcYUQcYAcNSHAcKEUXcPEUXcNJEEcNTEEcPUEcWUEcPEEcFEEcRUcLUcMIcNIcREUXcRAEcKENcNGKWAEN
    cNGGAcNGAcSHOcPUAEcFUcFOMcWAcNAcLIcPIcLOQcKOcMBENcRENcMENcMAcTIcKIcMOcMBAAcTETcKPAcTENcNTUUcSAMBAcFAAMAEcKOVUU
    cKOGHOMbCOMBINING_MARK_KOQNDONdTUKWENTISbNJAEMLIbFULL_STOPbCOLONbCOMMAbSEMICOLONbQUESTION_MARK
    :A700aMODIFIER_LETTER_CHINESE_TONE_YIN_PINGeYANG_PINGeYIN_SHANGeYANG_SHANGeYIN_QUeYANG_QUeYIN_RUeYANG_RU
    cEXTRA-HIGH_DOTTED_TONE_BARcHIGH_DOTTED_TONE_BARcMID_DOTTED_TONE_BARcLOW_DOTTED_TONE_BAR
    cEXTRA-LOW_DOTTED_TONE_BARcEXTRA-HIGH_DOTTED_LEFT-STEM_TONE_BARcHIGH_DOTTED_LEFT-STEM_TONE_BAR
    cMID_DOTTED_LEFT-STEM_TONE_BARcLOW_DOTTED_LEFT-STEM_TONE_BARcEXTRA-LOW_DOTTED_LEFT-STEM_TONE_BAR
    cEXTRA-HIGH_LEFT-STEM_TONE_BARcHIGH_LEFT-STEM_TONE_BARcMID_LEFT-STEM_TONE_BARcLOW_LEFT-STEM_TONE_BAR
    cEXTRA-LOW_LEFT-STEM_TONE_BARcDOT_VERTICAL_BARdSLASHdHORIZONTAL_BARcLOWER_RIGHT_CORNER_ANGLEcRAISED_UP_ARROW
    dDOWN_ARROWdEXCLAMATION_MARKdINVERTED_EXCLAMATION_MARKcLOW_INVERTED_EXCLAMATION_MARKcSTRESS_AND_HIGH_TONE
    eLOW_TONEaLATIN_CAPITAL_LETTER_EGYPTOLOGICAL_ALEFbSMALL_LETTER_EGYPTOLOGICAL_ALEF
    bCAPITAL_LETTER_EGYPTOLOGICAL_AINbSMALL_LETTER_EGYPTOLOGICAL_AINbCAPITAL_LETTER_HENGbSMALL_LETTER_HENG
    bCAPITAL_LETTER_TZbSMALL_LETTER_TZbCAPITAL_LETTER_TRESILLObSMALL_LETTER_TRESILLObCAPITAL_LETTER_CUATRILLO
    bSMALL_LETTER_CUATRILLObCAPITAL_LETTER_CUATRILLO_WITH_COMMAbSMALL_LETTER_CUATRILLO_WITH_COMMA
    bLETTER_SMALL_CAPITAL_FeSbCAPITAL_LETTER_AAbSMALL_LETTER_AAbCAPITAL_LETTER_AObSMALL_LETTER_AObCAPITAL_LETTER_AU
    bSMALL_LETTER_AUbCAPITAL_LETTER_AVbSMALL_LETTER_AVbCAPITAL_LETTER_AV_WITH_HORIZONTAL_BAR
    bSMALL_LETTER_AV_WITH_HORIZONTAL_BARbCAPITAL_LETTER_AYbSMALL_LETTER_AYbCAPITAL_LETTER_REVERSED_C_WITH_DOT
    bSMALL_LETTER_REVERSED_C_WITH_DOTbCAPITAL_LETTER_K_WITH_STROKEbSMALL_LETTER_K_WITH_STROKE
    bCAPITAL_LETTER_K_WITH_DIAGONAL_STROKEbSMALL_LETTER_K_WITH_DIAGONAL_STROKE
    bCAPITAL_LETTER_K_WITH_STROKE_AND_DIAGONAL_STROKEbSMALL_LETTER_K_WITH_STROKE_AND_DIAGONAL_STROKE
    bCAPITAL_LETTER_BROKEN_LbSMALL_LETTER_BROKEN_LbCAPITAL_LETTER_L_WITH_HIGH_STROKEbSMALL_LETTER_L_WITH_HIGH_STROKE
    bCAPITAL_LETTER_O_WITH_LONG_STROKE_OVERLAYbSMALL_LETTER_O_WITH_LONG_STROKE_OVERLAYbCAPITAL_LETTER_O_WITH_LOOP
    bSMALL_LETTER_O_WITH_LOOPbCAPITAL_LETTER_OObSMALL_LETTER_OObCAPITAL_LETTER_P_WITH_STROKE_THROUGH_DESCENDER
    bSMALL_LETTER_P_WITH_STROKE_THROUGH_DESCENDERbCAPITAL_LETTER_P_WITH_FLOURISHbSMALL_LETTER_P_WITH_FLOURISH
    bCAPITAL_LETTER_P_WITH_SQUIRREL_TAILbSMALL_LETTER_P_WITH_SQUIRREL_TAIL
    bCAPITAL_LETTER_Q_WITH_STROKE_THROUGH_DESCENDERbSMALL_LETTER_Q_WITH_STROKE_THROUGH_DESCENDER
    bCAPITAL_LETTER_Q_WITH_DIAGONAL_STROKEbSMALL_LETTER_Q_WITH_DIAGONAL_STROKEbCAPITAL_LETTER_R_ROTUNDA
    bSMALL_LETTER_R_ROTUNDAbCAPITAL_LETTER_RUM_ROTUNDAbSMALL_LETTER_RUM_ROTUNDA
    bCAPITAL_LETTER_V_WITH_DIAGONAL_STROKEbSMALL_LETTER_V_WITH_DIAGONAL_STROKEbCAPITAL_LETTER_VYbSMALL_LETTER_VY
    bCAPITAL_LETTER_VISIGOTHIC_ZbSMALL_LETTER_VISIGOTHIC_ZbCAPITAL_LETTER_THORN_WITH_STROKE
    bSMALL_LETTER_THORN_WITH_STROKEbCAPITAL_LETTER_THORN_WITH_STROKE_THROUGH_DESCENDER
    bSMALL_LETTER_THORN_WITH_STROKE_THROUGH_DESCENDERbCAPITAL_LETTER_VENDbSMALL_LETTER_VENDbCAPITAL_LETTER_ET
    bSMALL_LETTER_ETbCAPITAL_LETTER_ISbSMALL_LETTER_ISbCAPITAL_LETTER_CONbSMALL_LETTER_CONaMODIFIER_LETTER_US
    aLATIN_SMALL_LETTER_DUMdLUMdMUMdNUMdRUMbLETTER_SMALL_CAPITAL_RUMbSMALL_LETTER_TUMdUMbCAPITAL_LETTER_INSULAR_D
    bSMALL_LETTER_INSULAR_DbCAPITAL_LETTER_INSULAR_FbSMALL_LETTER_INSULAR_FbCAPITAL_LETTER_INSULAR_G
    dTURNED_INSULAR_GbSMALL_LETTER_TURNED_INSULAR_GbCAPITAL_LETTER_TURNED_LbSMALL_LETTER_TURNED_L
    bCAPITAL_LETTER_INSULAR_RbSMALL_LETTER_INSULAR_RbCAPITAL_LETTER_INSULAR_SbSMALL_LETTER_INSULAR_S
    bCAPITAL_LETTER_INSULAR_TbSMALL_LETTER_INSULAR_TaMODIFIER_LETTER_LOW_CIRCUMFLEX_ACCENTcCOLONcSHORT_EQUALS_SIGN
    aLATIN_CAPITAL_LETTER_SALTILLObSMALL_LETTER_SALTILLObCAPITAL_LETTER_TURNED_H
    bSMALL_LETTER_L_WITH_RETROFLEX_HOOK_AND_BELTbLETTER_SINOLOGICAL_DOTbCAPITAL_LETTER_N_WITH_DESCENDER
    bSMALL_LETTER_N_WITH_DESCENDERbCAPITAL_LETTER_C_WITH_BARbSMALL_LETTER_C_WITH_BARfPALATAL_HOOK
    dH_WITH_PALATAL_HOOKbCAPITAL_LETTER_B_WITH_FLOURISHbSMALL_LETTER_B_WITH_FLOURISHbCAPITAL_LETTER_F_WITH_STROKE
    bSMALL_LETTER_F_WITH_STROKEbCAPITAL_LETTER_VOLAPUK_AEbSMALL_LETTER_VOLAPUK_AEbCAPITAL_LETTER_VOLAPUK_OE
    bSMALL_LETTER_VOLAPUK_OEbCAPITAL_LETTER_VOLAPUK_UEbSMALL_LETTER_VOLAPUK_UEbCAPITAL_LETTER_G_WITH_OBLIQUE_STROKE
    bSMALL_LETTER_G_WITH_OBLIQUE_STROKEbCAPITAL_LETTER_K_WITH_OBLIQUE_STROKEbSMALL_LETTER_K_WITH_OBLIQUE_STROKE
    bCAPITAL_LETTER_N_WITH_OBLIQUE_STROKEbSMALL_LETTER_N_WITH_OBLIQUE_STROKEbCAPITAL_LETTER_R_WITH_OBLIQUE_STROKE
    bSMALL_LETTER_R_WITH_OBLIQUE_STROKEbCAPITAL_LETTER_S_WITH_OBLIQUE_STROKEbSMALL_LETTER_S_WITH_OBLIQUE_STROKE
    bCAPITAL_LETTER_H_WITH_HOOKdREVERSED_OPEN_EdSCRIPT_GdL_WITH_BELTdSMALL_CAPITAL_IbLETTER_SMALL_CAPITAL_Q
    bCAPITAL_LETTER_TURNED_KeTdJ_WITH_CROSSED-TAILdCHIdBETAbSMALL_LETTER_BETAbCAPITAL_LETTER_OMEGA
    bSMALL_LETTER_OMEGAbCAPITAL_LETTER_U_WITH_STROKEbSMALL_LETTER_U_WITH_STROKEbCAPITAL_LETTER_GLOTTAL_A
    bSMALL_LETTER_GLOTTAL_AbCAPITAL_LETTER_GLOTTAL_IbSMALL_LETTER_GLOTTAL_IbCAPITAL_LETTER_GLOTTAL_U
    bSMALL_LETTER_GLOTTAL_UbCAPITAL_LETTER_OLD_POLISH_ObSMALL_LETTER_OLD_POLISH_ObCAPITAL_LETTER_ANGLICANA_W
    bSMALL_LETTER_ANGLICANA_WbCAPITAL_LETTER_C_WITH_PALATAL_HOOKdS_WITH_HOOKdZ_WITH_PALATAL_HOOK
    dD_WITH_SHORT_STROKE_OVERLAYbSMALL_LETTER_D_WITH_SHORT_STROKE_OVERLAYbCAPITAL_LETTER_S_WITH_SHORT_STROKE_OVERLAY
    bSMALL_LETTER_S_WITH_SHORT_STROKE_OVERLAY:A7D0bCAPITAL_LETTER_CLOSED_INSULAR_GbSMALL_LETTER_CLOSED_INSULAR_G
    :A7D3dDOUBLE_THORN:A7D5eWYNNbCAPITAL_LETTER_MIDDLE_SCOTS_SbSMALL_LETTER_MIDDLE_SCOTS_SbCAPITAL_LETTER_SIGMOID_S
    bSMALL_LETTER_SIGMOID_S:A7F2aMODIFIER_LETTER_CAPITAL_CdFdQaLATIN_CAPITAL_LETTER_REVERSED_HALF_H
    bSMALL_LETTER_REVERSED_HALF_HbEPIGRAPHIC_LETTER_SIDEWAYS_IaMODIFIER_LETTER_CAPITAL_H_WITH_STROKE
    cSMALL_LIGATURE_OEaLATIN_LETTER_SMALL_CAPITAL_TURNED_MbEPIGRAPHIC_LETTER_REVERSED_FePdINVERTED_MdI_LONGA
    dARCHAIC_MaSYLOTI_NAGRI_LETTER_AdIcSIGN_DVISVARAcLETTER_UdEdOcSIGN_HASANTAcLETTER_KOdKHOdGOdGHOcSIGN_ANUSVARA
    cLETTER_COdCHOdJOdJHOdTTOdTTHOdDDOdDDHOdTOdTHOdDOdDHOdNOdPOdPHOdBOdBHOdMOdROdLOdRROdSOdHOcVOWEL_SIGN_AeIeUeEeOO
    cPOETRY_MARK-1dMARK-2dMARK-3dMARK-4cSIGN_ALTERNATE_HASANTA:A830aNORTH_INDIC_FRACTION_ONE_QUARTEReHALF
    dTHREE_QUARTERSdONE_SIXTEENTHeEIGHTHdTHREE_SIXTEENTHScQUARTER_MARKcPLACEHOLDER_MARKcRUPEE_MARKcQUANTITY_MARK
    :A840aPHAGS-PA_LETTER_KAcKHAcGAcNGAcCAcCHAcJAcNYAcTAcTHAcDAcNAcPAcPHAcBAcMAcTSAcTSHAcDZAcWAcZHAcZAcSMALL_AcYAcRA
    cLAcSHAcSAcHAcAcIcUcEcOcQAcXAcFAcGGAcEEbSUBJOINED_LETTER_WAdYAbLETTER_TTAcTTHAcDDAcNNAcALTERNATE_YA
    cVOICELESS_SHAcVOICED_HAcASPIRATED_FAbSUBJOINED_LETTER_RAbSUPERFIXED_LETTER_RAbLETTER_CANDRABINDU
    bSINGLE_HEAD_MARKbDOUBLE_HEAD_MARKbMARK_SHADcDOUBLE_SHAD:A880aSAURASHTRA_SIGN_ANUSVARAcVISARGAbLETTER_AcAAcIcII
    cUcUUcVOCALIC_RdRRdLdLLcEcEEcAIcOcOOcAUcKAcKHAcGAcGHAcNGAcCAcCHAcJAcJHAcNYAcTTAcTTHAcDDAcDDHAcNNAcTAcTHAcDAcDHA
    cNAcPAcPHAcBAcBHAcMAcYAcRAcLAcVAcSHAcSSAcSAcHAcLLAbCONSONANT_SIGN_HAARUbVOWEL_SIGN_AAdIdIIdUdUUdVOCALIC_ReRReL
    eLLdEdEEdAIdOdOOdAUbSIGN_VIRAMAcCANDRABINDU:A8CEbDANDAbDOUBLE_DANDAbDIGIT_ZEROcONEcTWOcTHREEcFOURcFIVEcSIXcSEVEN
    cEIGHTcNINE:A8E0aCOMBINING_DEVANAGARI_DIGIT_ZEROdONEdTWOdTHREEdFOURdFIVEdSIXdSEVENdEIGHTdNINEcLETTER_AdUdKAdNA
    dPAdRAdVIcSIGN_AVAGRAHAaDEVANAGARI_SIGN_SPACING_CANDRABINDUcCANDRABINDU_VIRAMAcDOUBLE_CANDRABINDU_VIRAMA
    cCANDRABINDU_TWOdTHREEdAVAGRAHAcPUSHPIKAbGAP_FILLERbCARETbHEADSTROKEbSIGN_SIDDHAMbJAIN_OMbLETTER_AY
    bVOWEL_SIGN_AYaKAYAH_LI_DIGIT_ZEROdONEdTWOdTHREEdFOURdFIVEdSIXdSEVENdEIGHTdNINEcLETTER_KAdKHAdGAdNGAdSAdSHAdZA
    dNYAdTAdHTAdNAdPAdPHAdMAdDAdBAdRAdYAdLAdWAdTHAdHAdVAdCAdAdOEdIdOOcVOWEL_UEdEdUdEEdOcTONE_PLOPHUdCALYAePLOPHU
    cSIGN_CWIdSHYAaREJANG_LETTER_KAcGAcNGAcTAcDAcNAcPAcBAcMAcCAcJAcNYAcSAcRAcLAcYAcWAcHAcMBAcNGGAcNDAcNYJAcA
    bVOWEL_SIGN_IdUdEdAIdOdAUdEUdEAbCONSONANT_SIGN_NGdNdRdHbVIRAMA:A95FbSECTION_MARKaHANGUL_CHOSEONG_TIKEUT-MIEUM
    cTIKEUT-PIEUPcTIKEUT-SIOScTIKEUT-CIEUCcRIEUL-KIYEOKcRIEUL-SSANGKIYEOKcRIEUL-TIKEUTcRIEUL-SSANGTIKEUTcRIEUL-MIEUM
    cRIEUL-PIEUPcRIEUL-SSANGPIEUPcRIEUL-KAPYEOUNPIEUPcRIEUL-SIOScRIEUL-CIEUCcRIEUL-KHIEUKHcMIEUM-KIYEOKcMIEUM-TIKEUT
    cMIEUM-SIOScPIEUP-SIOS-THIEUTHcPIEUP-KHIEUKHcPIEUP-HIEUHcSSANGSIOS-PIEUPcIEUNG-RIEULcIEUNG-HIEUH
    cSSANGCIEUC-HIEUHcSSANGTHIEUTHcPHIEUPH-HIEUHcHIEUH-SIOScSSANGYEORINHIEUH:A980aJAVANESE_SIGN_PANYANGGAcCECAK
    cLAYARcWIGNYANbLETTER_AcI_KAWIcIcIIcUcPA_CEREKcNGA_LELETeRASWADIcEcAIcOcKAdSASAKdMURDAcGAdMURDAcNGAcCAdMURDAcJA
    cNYA_MURDAcJA_MAHAPRANAcNYAcTTAdMAHAPRANAcDDAdMAHAPRANAcNA_MURDAcTAdMURDAcDAdMAHAPRANAcNAcPAdMURDAcBAdMURDAcMA
    cYAcRAdAGUNGcLAcWAcSA_MURDAdMAHAPRANAcSAcHAbSIGN_CECAK_TELUbVOWEL_SIGN_TARUNGdTOLONGdWULUeMELIKdSUKUeMENDUT
    dTALINGdDIRGA_MUREdPEPETbCONSONANT_SIGN_KERETdPENGKALdCAKRAbPANGKONbLEFT_RERENGGANbRIGHT_RERENGGANbPADA_ANDAP
    cMADYAcLUHURcWINDUcPANGKATcLINGSAcLUNGSIcADEGdADEGcPISELEHbTURNED_PADA_PISELEH:A9CFbPANGRANGKEPbDIGIT_ZEROcONE
    cTWOcTHREEcFOURcFIVEcSIXcSEVENcEIGHTcNINE:A9DEbPADA_TIRTA_TUMETEScISEN-ISENaMYANMAR_LETTER_SHAN_GHAdCHAdJHAdNNA
    dBHAbSIGN_SHAN_SAWbMODIFIER_LETTER_SHAN_REDUPLICATIONbLETTER_TAI_LAING_NYAeFAeGAeGHAeJAeJHAeDDAeDDHAeNNA
    bTAI_LAING_DIGIT_ZEROeONEeTWOeTHREEeFOUReFIVEeSIXeSEVENeEIGHTeNINEbLETTER_TAI_LAING_LLAeDAeDHAeBAeBHA
    :AA00aCHAM_LETTER_AcIcUcEcAIcOcKAcKHAcGAcGHAcNGUEcNGAcCHAcCHHAcJAcJHAcNHUEcNHAcNHJAcTAcTHAcDAcDHAcNUEcNAcDDAcPA
    cPPAcPHAcBAcBHAcMUEcMAcBBAcYAcRAcLAcVAcSSAcSAcHAbVOWEL_SIGN_AAdIdIIdEIdUdOEdOdAIdAUdUEbCONSONANT_SIGN_YAdRAdLA
    dWA:AA40bLETTER_FINAL_KdGdNGbCONSONANT_SIGN_FINAL_NGbLETTER_FINAL_CHdTdNdPdYdRdLdSSbCONSONANT_SIGN_FINAL_MeH
    :AA50bDIGIT_ZEROcONEcTWOcTHREEcFOURcFIVEcSIXcSEVENcEIGHTcNINE:AA5CbPUNCTUATION_SPIRALcDANDAcDOUBLE_DANDA
    cTRIPLE_DANDAaMYANMAR_LETTER_KHAMTI_GAdCAdCHAdJAdJHAdNYAdTTAdTTHAdDDAdDDHAdDHAdNAdSAdHAdHHAdFA
    bMODIFIER_LETTER_KHAMTI_REDUPLICATIONbLETTER_KHAMTI_XAdZAdRAbLOGOGRAM_KHAMTI_OAYdQNdHMbSYMBOL_AITON_EXCLAMATION
    dONEdTWObLETTER_AITON_RAbSIGN_PAO_KAREN_TONEcTAI_LAING_TONE-2eTONE-5bLETTER_SHWE_PALAUNG_CHAeSHA
    aTAI_VIET_LETTER_LOW_KOdHIGH_KOdLOW_KHOdHIGH_KHOdLOW_KHHOdHIGH_KHHOdLOW_GOdHIGH_GOdLOW_NGOdHIGH_NGOdLOW_CO
    dHIGH_COdLOW_CHOdHIGH_CHOdLOW_SOdHIGH_SOdLOW_NYOdHIGH_NYOdLOW_DOdHIGH_DOdLOW_TOdHIGH_TOdLOW_THOdHIGH_THOdLOW_NO
    dHIGH_NOdLOW_BOdHIGH_BOdLOW_POdHIGH_POdLOW_PHOdHIGH_PHOdLOW_FOdHIGH_FOdLOW_MOdHIGH_MOdLOW_YOdHIGH_YOdLOW_RO
    dHIGH_ROdLOW_LOdHIGH_LOdLOW_VOdHIGH_VOdLOW_HOdHIGH_HOdLOW_OdHIGH_OcMAI_KANGcVOWEL_AAdIdUEdUdEdOcMAI_KHIT
    cVOWEL_IAdUEAdUAdAUEdAYdANdAMcTONE_MAI_EKeNUENGeTHOeSONG:AADBcSYMBOL_KONdNUENGdSAMdHO_HOIdKOI_KOI
    aMEETEI_MAYEK_LETTER_EdOdCHAdNYAdTTAdTTHAdDDAdDDHAdNNAdSHAdSSAcVOWEL_SIGN_IIeUUeAAIeAUeAAUcCHEIKHANcAHANG_KHUDAM
    cANJIcSYLLABLE_REPETITION_MARKcWORD_REPETITION_MARKcVOWEL_SIGN_VISARGAcVIRAMA:AB01aETHIOPIC_SYLLABLE_TTHUcTTHI
    cTTHAAcTTHEEcTTHEcTTHO:AB09cDDHUcDDHIcDDHAAcDDHEEcDDHEcDDHO:AB11cDZUcDZIcDZAAcDZEEcDZEcDZO:AB20cCCHHAcCCHHU
    cCCHHIcCCHHAAcCCHHEEcCCHHEcCCHHO:AB28cBBAcBBUcBBIcBBAAcBBEEcBBEcBBO:AB30aLATIN_SMALL_LETTER_BARRED_ALPHA
    dA_REVERSED-SCHWAdBLACKLETTER_EdBARRED_EdE_WITH_FLOURISHdLENIS_FdSCRIPT_G_WITH_CROSSED-TAIL
    dL_WITH_INVERTED_LAZY_SfDOUBLE_MIDDLE_TILDEfMIDDLE_RINGdM_WITH_CROSSED-TAILdN_WITH_CROSSED-TAIL
    dENG_WITH_CROSSED-TAILdBLACKLETTER_OfWITH_STROKEdOPEN_O_WITH_STROKEdINVERTED_OEdTURNED_OE_WITH_STROKE
    gHORIZONTAL_STROKEeO_OPEN-OgWITH_STROKEdSTIRRUP_RbLETTER_SMALL_CAPITAL_R_WITH_RIGHT_LEG
    bSMALL_LETTER_R_WITHOUT_HANDLEdDOUBLE_RdR_WITH_CROSSED-TAILdDOUBLE_R_WITH_CROSSED-TAILdSCRIPT_RfWITH_RING
    dBASELINE_ESHdU_WITH_SHORT_RIGHT_LEGeBAR_WITH_SHORT_RIGHT_LEGdUIdTURNED_UIdU_WITH_LEFT_HOOKdCHI
    eWITH_LOW_RIGHT_RINGgLEFT_SERIFdX_WITH_LOW_RIGHT_RINGfLONG_LEFT_LEGiAND_LOW_RIGHT_RINGiWITH_SERIF
    dY_WITH_SHORT_RIGHT_LEGaMODIFIER_BREVE_WITH_INVERTED_BREVEbLETTER_SMALL_HENGdL_WITH_INVERTED_LAZY_SfMIDDLE_TILDE
    dU_WITH_LEFT_HOOKaLATIN_SMALL_LETTER_SAKHA_YATdIOTIFIED_EdOPEN_OEdUOdINVERTED_ALPHA
    aGREEK_LETTER_SMALL_CAPITAL_OMEGAaLATIN_SMALL_LETTER_DZ_DIGRAPH_WITH_RETROFLEX_HOOK
    dTS_DIGRAPH_WITH_RETROFLEX_HOOKdTURNED_R_WITH_MIDDLE_TILDEaMODIFIER_LETTER_SMALL_TURNED_WcLEFT_TACKcRIGHT_TACK
    :AB70aCHEROKEE_SMALL_LETTER_AdEdIdOdUdVdGAdKAdGEdGIdGOdGUdGVdHAdHEdHIdHOdHUdHVdLAdLEdLIdLOdLUdLVdMAdMEdMIdMOdMU
    dNAdHNAdNAHdNEdNIdNOdNUdNVdQUAdQUEdQUIdQUOdQUUdQUVdSAdSdSEdSIdSOdSUdSVdDAdTAdDEdTEdDIdTIdDOdDUdDVdDLAdTLAdTLE
    dTLIdTLOdTLUdTLVdTSAdTSEdTSIdTSOdTSUdTSVdWAdWEdWIdWOdWUdWVdYAaMEETEI_MAYEK_LETTER_KOKdSAMdLAIdMITdPAdNAdCHILdTIL
    dKHOUdNGOUdTHOUdWAIdYANGdHUKdUNdIdPHAMdATIYAdGOKdJHAMdRAIdBAdJILdDILdGHOUdDHOUdBHAMdKOK_LONSUMdLAI_LONSUM
    dMIT_LONSUMdPA_LONSUMdNA_LONSUMdTIL_LONSUMdNGOU_LONSUMdI_LONSUMcVOWEL_SIGN_ONAPeINAPeANAPeYENAPeSOUNAPeUNAP
    eCHEINAPeNUNGcCHEIKHEIcLUM_IYEKcAPUN_IYEK:ABF0cDIGIT_ZEROdONEdTWOdTHREEdFOURdFIVEdSIXdSEVENdEIGHTdNINE
    :D7B0aHANGUL_JUNGSEONG_O-YEOcO-O-IcYO-AcYO-AEcYO-EOcU-YEOcU-I-IcYU-AEcYU-OcEU-AcEU-EOcEU-EcEU-OcI-YA-OcI-YAE
    cI-YEOcI-YEcI-O-IcI-YOcI-YUcI-IcARAEA-AcARAEA-E:D7CBbJONGSEONG_NIEUN-RIEULcNIEUN-CHIEUCHcSSANGTIKEUT
    cSSANGTIKEUT-PIEUPcTIKEUT-PIEUPcTIKEUT-SIOScTIKEUT-SIOS-KIYEOKcTIKEUT-CIEUCcTIKEUT-CHIEUCHcTIKEUT-THIEUTH
    cRIEUL-SSANGKIYEOKcRIEUL-KIYEOK-HIEUHcSSANGRIEUL-KHIEUKHcRIEUL-MIEUM-HIEUHcRIEUL-PIEUP-TIKEUT
    cRIEUL-PIEUP-PHIEUPHcRIEUL-YESIEUNGcRIEUL-YEORINHIEUH-HIEUHcKAPYEOUNRIEULcMIEUM-NIEUNcMIEUM-SSANGNIEUN
    cSSANGMIEUMcMIEUM-PIEUP-SIOScMIEUM-CIEUCcPIEUP-TIKEUTcPIEUP-RIEUL-PHIEUPHcPIEUP-MIEUMcSSANGPIEUP
    cPIEUP-SIOS-TIKEUTcPIEUP-CIEUCcPIEUP-CHIEUCHcSIOS-MIEUMcSIOS-KAPYEOUNPIEUPcSSANGSIOS-KIYEOKcSSANGSIOS-TIKEUT
    cSIOS-PANSIOScSIOS-CIEUCcSIOS-CHIEUCHcSIOS-THIEUTHcSIOS-HIEUHcPANSIOS-PIEUPcPANSIOS-KAPYEOUNPIEUPcYESIEUNG-MIEUM
    cYESIEUNG-HIEUHcCIEUC-PIEUPcCIEUC-SSANGPIEUPcSSANGCIEUCcPHIEUPH-SIOScPHIEUPH-THIEUTH
    :FB00aLATIN_SMALL_LIGATURE_FFdFIdFLdFFIdFFLdLONG_S_TdST:FB13aARMENIAN_SMALL_LIGATURE_MEN_NOWeECHeINIdVEW_NOW
    dMEN_XEH:FB1DaHEBREW_LETTER_YOD_WITH_HIRIQbPOINT_JUDEO-SPANISH_VARIKAbLIGATURE_YIDDISH_YOD_YOD_PATAH
    bLETTER_ALTERNATIVE_AYINcWIDE_ALEFdDALETdHEdKAFdLAMEDdFINAL_MEMdRESHdTAVcALTERNATIVE_PLUS_SIGN
    cSHIN_WITH_SHIN_DOTeSIN_DOTeDAGESH_AND_SHIN_DOTgSIN_DOTcALEF_WITH_PATAHeQAMATSeMAPIQcBET_WITH_DAGESH
    cGIMEL_WITH_DAGESHcDALET_WITH_DAGESHcHE_WITH_MAPIQcVAV_WITH_DAGESHcZAYIN_WITH_DAGESH:FB38cTET_WITH_DAGESH
    cYOD_WITH_DAGESHcFINAL_KAF_WITH_DAGESHcKAF_WITH_DAGESHcLAMED_WITH_DAGESH:FB3EcMEM_WITH_DAGESH
    :FB40cNUN_WITH_DAGESHcSAMEKH_WITH_DAGESH:FB43cFINAL_PE_WITH_DAGESHcPE_WITH_DAGESH:FB46cTSADI_WITH_DAGESH
    cQOF_WITH_DAGESHcRESH_WITH_DAGESHcSHIN_WITH_DAGESHcTAV_WITH_DAGESHcVAV_WITH_HOLAMcBET_WITH_RAFEcKAF_WITH_RAFE
    cPE_WITH_RAFEbLIGATURE_ALEF_LAMEDaARABIC_LETTER_ALEF_WASLA_ISOLATED_FORMeFINAL_FORMcBEEH_ISOLATED_FORM
    dFINAL_FORMdINITIAL_FORMdMEDIAL_FORMcPEH_ISOLATED_FORMdFINAL_FORMdINITIAL_FORMdMEDIAL_FORMcBEHEH_ISOLATED_FORM
    dFINAL_FORMdINITIAL_FORMdMEDIAL_FORMcTTEHEH_ISOLATED_FORMdFINAL_FORMdINITIAL_FORMdMEDIAL_FORM
    cTEHEH_ISOLATED_FORMdFINAL_FORMdINITIAL_FORMdMEDIAL_FORMcTTEH_ISOLATED_FORMdFINAL_FORMdINITIAL_FORMdMEDIAL_FORM
    cVEH_ISOLATED_FORMdFINAL_FORMdINITIAL_FORMdMEDIAL_FORMcPEHEH_ISOLATED_FORMdFINAL_FORMdINITIAL_FORMdMEDIAL_FORM
    cDYEH_ISOLATED_FORMdFINAL_FORMdINITIAL_FORMdMEDIAL_FORMcNYEH_ISOLATED_FORMdFINAL_FORMdINITIAL_FORMdMEDIAL_FORM
    cTCHEH_ISOLATED_FORMdFINAL_FORMdINITIAL_FORMdMEDIAL_FORMcTCHEHEH_ISOLATED_FORMdFINAL_FORMdINITIAL_FORM
    dMEDIAL_FORMcDDAHAL_ISOLATED_FORMdFINAL_FORMcDAHAL_ISOLATED_FORMdFINAL_FORMcDUL_ISOLATED_FORMdFINAL_FORM
    cDDAL_ISOLATED_FORMdFINAL_FORMcJEH_ISOLATED_FORMdFINAL_FORMcRREH_ISOLATED_FORMdFINAL_FORMcKEHEH_ISOLATED_FORM
    dFINAL_FORMdINITIAL_FORMdMEDIAL_FORMcGAF_ISOLATED_FORMdFINAL_FORMdINITIAL_FORMdMEDIAL_FORMcGUEH_ISOLATED_FORM
    dFINAL_FORMdINITIAL_FORMdMEDIAL_FORMcNGOEH_ISOLATED_FORMdFINAL_FORMdINITIAL_FORMdMEDIAL_FORM
    cNOON_GHUNNA_ISOLATED_FORMeFINAL_FORMcRNOON_ISOLATED_FORMdFINAL_FORMdINITIAL_FORMdMEDIAL_FORM
    cHEH_WITH_YEH_ABOVE_ISOLATED_FORMgFINAL_FORMdGOAL_ISOLATED_FORMeFINAL_FORMeINITIAL_FORMeMEDIAL_FORM
    dDOACHASHMEE_ISOLATED_FORMeFINAL_FORMeINITIAL_FORMeMEDIAL_FORMcYEH_BARREE_ISOLATED_FORMeFINAL_FORM
    eWITH_HAMZA_ABOVE_ISOLATED_FORMhFINAL_FORMbSYMBOL_DOT_ABOVEdBELOWcTWO_DOTS_ABOVEeBELOWcTHREE_DOTS_ABOVEeBELOW
    ePOINTING_DOWNWARDS_ABOVEgBELOWcFOUR_DOTS_ABOVEeBELOWcDOUBLE_VERTICAL_BAR_BELOWcTWO_DOTS_VERTICALLY_ABOVEfBELOW
    cRINGcSMALL_TAH_ABOVEeBELOWcWASLA_ABOVE:FBD3bLETTER_NG_ISOLATED_FORMdFINAL_FORMdINITIAL_FORMdMEDIAL_FORM
    cU_ISOLATED_FORMdFINAL_FORMcOE_ISOLATED_FORMdFINAL_FORMcYU_ISOLATED_FORMdFINAL_FORM
    cU_WITH_HAMZA_ABOVE_ISOLATED_FORMcVE_ISOLATED_FORMdFINAL_FORMcKIRGHIZ_OE_ISOLATED_FORMeFINAL_FORM
    dYU_ISOLATED_FORMeFINAL_FORMcE_ISOLATED_FORMdFINAL_FORMdINITIAL_FORMdMEDIAL_FORM
    cUIGHUR_KAZAKH_KIRGHIZ_ALEF_MAKSURA_INITIAL_FORMhMEDIAL_FORM
    bLIGATURE_YEH_WITH_HAMZA_ABOVE_WITH_ALEF_ISOLATED_FORMiFINAL_FORMhAE_ISOLATED_FORMiFINAL_FORMhWAW_ISOLATED_FORM
    iFINAL_FORMhU_ISOLATED_FORMiFINAL_FORMhOE_ISOLATED_FORMiFINAL_FORMhYU_ISOLATED_FORMiFINAL_FORMhE_ISOLATED_FORM
    iFINAL_FORMiINITIAL_FORMcUIGHUR_KIRGHIZ_YEH_WITH_HAMZA_ABOVE_WITH_ALEF_MAKSURA_ISOLATED_FORMlFINAL_FORM
    lINITIAL_FORMbLETTER_FARSI_YEH_ISOLATED_FORMeFINAL_FORMeINITIAL_FORMeMEDIAL_FORM
    bLIGATURE_YEH_WITH_HAMZA_ABOVE_WITH_JEEM_ISOLATED_FORMhHAH_ISOLATED_FORMhMEEM_ISOLATED_FORM
    hALEF_MAKSURA_ISOLATED_FORMhYEH_ISOLATED_FORMcBEH_WITH_JEEM_ISOLATED_FORMeHAH_ISOLATED_FORMeKHAH_ISOLATED_FORM
    eMEEM_ISOLATED_FORMeALEF_MAKSURA_ISOLATED_FORMeYEH_ISOLATED_FORMcTEH_WITH_JEEM_ISOLATED_FORMeHAH_ISOLATED_FORM
    eKHAH_ISOLATED_FORMeMEEM_ISOLATED_FORMeALEF_MAKSURA_ISOLATED_FORMeYEH_ISOLATED_FORMcTHEH_WITH_JEEM_ISOLATED_FORM
    eMEEM_ISOLATED_FORMeALEF_MAKSURA_ISOLATED_FORMeYEH_ISOLATED_FORMcJEEM_WITH_HAH_ISOLATED_FORMeMEEM_ISOLATED_FORM
    cHAH_WITH_JEEM_ISOLATED_FORMeMEEM_ISOLATED_FORMcKHAH_WITH_JEEM_ISOLATED_FORMeHAH_ISOLATED_FORM
    eMEEM_ISOLATED_FORMcSEEN_WITH_JEEM_ISOLATED_FORMeHAH_ISOLATED_FORMeKHAH_ISOLATED_FORMeMEEM_ISOLATED_FORM
    cSAD_WITH_HAH_ISOLATED_FORMeMEEM_ISOLATED_FORMcDAD_WITH_JEEM_ISOLATED_FORMeHAH_ISOLATED_FORMeKHAH_ISOLATED_FORM
    eMEEM_ISOLATED_FORMcTAH_WITH_HAH_ISOLATED_FORMeMEEM_ISOLATED_FORMcZAH_WITH_MEEM_ISOLATED_FORM
    cAIN_WITH_JEEM_ISOLATED_FORMeMEEM_ISOLATED_FORMcGHAIN_WITH_JEEM_ISOLATED_FORMeMEEM_ISOLATED_FORM
    cFEH_WITH_JEEM_ISOLATED_FORMeHAH_ISOLATED_FORMeKHAH_ISOLATED_FORMeMEEM_ISOLATED_FORMeALEF_MAKSURA_ISOLATED_FORM
    eYEH_ISOLATED_FORMcQAF_WITH_HAH_ISOLATED_FORMeMEEM_ISOLATED_FORMeALEF_MAKSURA_ISOLATED_FORMeYEH_ISOLATED_FORM
    cKAF_WITH_ALEF_ISOLATED_FORMeJEEM_ISOLATED_FORMeHAH_ISOLATED_FORMeKHAH_ISOLATED_FORMeLAM_ISOLATED_FORM
    eMEEM_ISOLATED_FORMeALEF_MAKSURA_ISOLATED_FORMeYEH_ISOLATED_FORMcLAM_WITH_JEEM_ISOLATED_FORMeHAH_ISOLATED_FORM
    eKHAH_ISOLATED_FORMeMEEM_ISOLATED_FORMeALEF_MAKSURA_ISOLATED_FORMeYEH_ISOLATED_FORMcMEEM_WITH_JEEM_ISOLATED_FORM
    eHAH_ISOLATED_FORMeKHAH_ISOLATED_FORMeMEEM_ISOLATED_FORMeALEF_MAKSURA_ISOLATED_FORMeYEH_ISOLATED_FORM
    cNOON_WITH_JEEM_ISOLATED_FORMeHAH_ISOLATED_FORMeKHAH_ISOLATED_FORMeMEEM_ISOLATED_FORMeALEF_MAKSURA_ISOLATED_FORM
    eYEH_ISOLATED_FORMcHEH_WITH_JEEM_ISOLATED_FORMeMEEM_ISOLATED_FORMeALEF_MAKSURA_ISOLATED_FORMeYEH_ISOLATED_FORM
    cYEH_WITH_JEEM_ISOLATED_FORMeHAH_ISOLATED_FORMeKHAH_ISOLATED_FORMeMEEM_ISOLATED_FORMeALEF_MAKSURA_ISOLATED_FORM
    eYEH_ISOLATED_FORMcTHAL_WITH_SUPERSCRIPT_ALEF_ISOLATED_FORMcREH_WITH_SUPERSCRIPT_ALEF_ISOLATED_FORM
    cALEF_MAKSURA_WITH_SUPERSCRIPT_ALEF_ISOLATED_FORMcSHADDA_WITH_DAMMATAN_ISOLATED_FORMeKASRATAN_ISOLATED_FORM
    eFATHA_ISOLATED_FORMeDAMMA_ISOLATED_FORMeKASRA_ISOLATED_FORMeSUPERSCRIPT_ALEF_ISOLATED_FORM
    cYEH_WITH_HAMZA_ABOVE_WITH_REH_FINAL_FORMhZAIN_FINAL_FORMhMEEM_FINAL_FORMhNOON_FINAL_FORM
    hALEF_MAKSURA_FINAL_FORMhYEH_FINAL_FORMcBEH_WITH_REH_FINAL_FORMeZAIN_FINAL_FORMeMEEM_FINAL_FORMeNOON_FINAL_FORM
    eALEF_MAKSURA_FINAL_FORMeYEH_FINAL_FORMcTEH_WITH_REH_FINAL_FORMeZAIN_FINAL_FORMeMEEM_FINAL_FORMeNOON_FINAL_FORM
    eALEF_MAKSURA_FINAL_FORMeYEH_FINAL_FORMcTHEH_WITH_REH_FINAL_FORMeZAIN_FINAL_FORMeMEEM_FINAL_FORMeNOON_FINAL_FORM
    eALEF_MAKSURA_FINAL_FORMeYEH_FINAL_FORMcFEH_WITH_ALEF_MAKSURA_FINAL_FORMeYEH_FINAL_FORM
    cQAF_WITH_ALEF_MAKSURA_FINAL_FORMeYEH_FINAL_FORMcKAF_WITH_ALEF_FINAL_FORMeLAM_FINAL_FORMeMEEM_FINAL_FORM
    eALEF_MAKSURA_FINAL_FORMeYEH_FINAL_FORMcLAM_WITH_MEEM_FINAL_FORMeALEF_MAKSURA_FINAL_FORMeYEH_FINAL_FORM
    cMEEM_WITH_ALEF_FINAL_FORMeMEEM_FINAL_FORMcNOON_WITH_REH_FINAL_FORMeZAIN_FINAL_FORMeMEEM_FINAL_FORM
    eNOON_FINAL_FORMeALEF_MAKSURA_FINAL_FORMeYEH_FINAL_FORMcALEF_MAKSURA_WITH_SUPERSCRIPT_ALEF_FINAL_FORM
    cYEH_WITH_REH_FINAL_FORMeZAIN_FINAL_FORMeMEEM_FINAL_FORMeNOON_FINAL_FORMeALEF_MAKSURA_FINAL_FORMeYEH_FINAL_FORM
    eHAMZA_ABOVE_WITH_JEEM_INITIAL_FORMhHAH_INITIAL_FORMhKHAH_INITIAL_FORMhMEEM_INITIAL_FORMhHEH_INITIAL_FORM
    cBEH_WITH_JEEM_INITIAL_FORMeHAH_INITIAL_FORMeKHAH_INITIAL_FORMeMEEM_INITIAL_FORMeHEH_INITIAL_FORM
    cTEH_WITH_JEEM_INITIAL_FORMeHAH_INITIAL_FORMeKHAH_INITIAL_FORMeMEEM_INITIAL_FORMeHEH_INITIAL_FORM
    cTHEH_WITH_MEEM_INITIAL_FORMcJEEM_WITH_HAH_INITIAL_FORMeMEEM_INITIAL_FORMcHAH_WITH_JEEM_INITIAL_FORM
    eMEEM_INITIAL_FORMcKHAH_WITH_JEEM_INITIAL_FORMeMEEM_INITIAL_FORMcSEEN_WITH_JEEM_INITIAL_FORMeHAH_INITIAL_FORM
    eKHAH_INITIAL_FORMeMEEM_INITIAL_FORMcSAD_WITH_HAH_INITIAL_FORMeKHAH_INITIAL_FORMeMEEM_INITIAL_FORM
    cDAD_WITH_JEEM_INITIAL_FORMeHAH_INITIAL_FORMeKHAH_INITIAL_FORMeMEEM_INITIAL_FORMcTAH_WITH_HAH_INITIAL_FORM
    cZAH_WITH_MEEM_INITIAL_FORMcAIN_WITH_JEEM_INITIAL_FORMeMEEM_INITIAL_FORMcGHAIN_WITH_JEEM_INITIAL_FORM
    eMEEM_INITIAL_FORMcFEH_WITH_JEEM_INITIAL_FORMeHAH_INITIAL_FORMeKHAH_INITIAL_FORMeMEEM_INITIAL_FORM
    cQAF_WITH_HAH_INITIAL_FORMeMEEM_INITIAL_FORMcKAF_WITH_JEEM_INITIAL_FORMeHAH_INITIAL_FORMeKHAH_INITIAL_FORM
    eLAM_INITIAL_FORMeMEEM_INITIAL_FORMcLAM_WITH_JEEM_INITIAL_FORMeHAH_INITIAL_FORMeKHAH_INITIAL_FORM
    eMEEM_INITIAL_FORMeHEH_INITIAL_FORMcMEEM_WITH_JEEM_INITIAL_FORMeHAH_INITIAL_FORMeKHAH_INITIAL_FORM
    eMEEM_INITIAL_FORMcNOON_WITH_JEEM_INITIAL_FORMeHAH_INITIAL_FORMeKHAH_INITIAL_FORMeMEEM_INITIAL_FORM
    eHEH_INITIAL_FORMcHEH_WITH_JEEM_INITIAL_FORMeMEEM_INITIAL_FORMeSUPERSCRIPT_ALEF_INITIAL_FORM
    cYEH_WITH_JEEM_INITIAL_FORMeHAH_INITIAL_FORMeKHAH_INITIAL_FORMeMEEM_INITIAL_FORMeHEH_INITIAL_FORM
    eHAMZA_ABOVE_WITH_MEEM_MEDIAL_FORMhHEH_MEDIAL_FORMcBEH_WITH_MEEM_MEDIAL_FORMeHEH_MEDIAL_FORM
    cTEH_WITH_MEEM_MEDIAL_FORMeHEH_MEDIAL_FORMcTHEH_WITH_MEEM_MEDIAL_FORMeHEH_MEDIAL_FORMcSEEN_WITH_MEEM_MEDIAL_FORM
    eHEH_MEDIAL_FORMcSHEEN_WITH_MEEM_MEDIAL_FORMeHEH_MEDIAL_FORMcKAF_WITH_LAM_MEDIAL_FORMeMEEM_MEDIAL_FORM
    cLAM_WITH_MEEM_MEDIAL_FORMcNOON_WITH_MEEM_MEDIAL_FORMeHEH_MEDIAL_FORMcYEH_WITH_MEEM_MEDIAL_FORMeHEH_MEDIAL_FORM
    cSHADDA_WITH_FATHA_MEDIAL_FORMeDAMMA_MEDIAL_FORMeKASRA_MEDIAL_FORMcTAH_WITH_ALEF_MAKSURA_ISOLATED_FORM
    eYEH_ISOLATED_FORMcAIN_WITH_ALEF_MAKSURA_ISOLATED_FORMeYEH_ISOLATED_FORMcGHAIN_WITH_ALEF_MAKSURA_ISOLATED_FORM
    eYEH_ISOLATED_FORMcSEEN_WITH_ALEF_MAKSURA_ISOLATED_FORMeYEH_ISOLATED_FORMcSHEEN_WITH_ALEF_MAKSURA_ISOLATED_FORM
    eYEH_ISOLATED_FORMcHAH_WITH_ALEF_MAKSURA_ISOLATED_FORMeYEH_ISOLATED_FORMcJEEM_WITH_ALEF_MAKSURA_ISOLATED_FORM
    eYEH_ISOLATED_FORMcKHAH_WITH_ALEF_MAKSURA_ISOLATED_FORMeYEH_ISOLATED_FORMcSAD_WITH_ALEF_MAKSURA_ISOLATED_FORM
    eYEH_ISOLATED_FORMcDAD_WITH_ALEF_MAKSURA_ISOLATED_FORMeYEH_ISOLATED_FORMcSHEEN_WITH_JEEM_ISOLATED_FORM
    eHAH_ISOLATED_FORMeKHAH_ISOLATED_FORMeMEEM_ISOLATED_FORMeREH_ISOLATED_FORMcSEEN_WITH_REH_ISOLATED_FORM
    cSAD_WITH_REH_ISOLATED_FORMcDAD_WITH_REH_ISOLATED_FORMcTAH_WITH_ALEF_MAKSURA_FINAL_FORMeYEH_FINAL_FORM
    cAIN_WITH_ALEF_MAKSURA_FINAL_FORMeYEH_FINAL_FORMcGHAIN_WITH_ALEF_MAKSURA_FINAL_FORMeYEH_FINAL_FORM
    cSEEN_WITH_ALEF_MAKSURA_FINAL_FORMeYEH_FINAL_FORMcSHEEN_WITH_ALEF_MAKSURA_FINAL_FORMeYEH_FINAL_FORM
    cHAH_WITH_ALEF_MAKSURA_FINAL_FORMeYEH_FINAL_FORMcJEEM_WITH_ALEF_MAKSURA_FINAL_FORMeYEH_FINAL_FORM
    cKHAH_WITH_ALEF_MAKSURA_FINAL_FORMeYEH_FINAL_FORMcSAD_WITH_ALEF_MAKSURA_FINAL_FORMeYEH_FINAL_FORM
    cDAD_WITH_ALEF_MAKSURA_FINAL_FORMeYEH_FINAL_FORMcSHEEN_WITH_JEEM_FINAL_FORMeHAH_FINAL_FORMeKHAH_FINAL_FORM
    eMEEM_FINAL_FORMeREH_FINAL_FORMcSEEN_WITH_REH_FINAL_FORMcSAD_WITH_REH_FINAL_FORMcDAD_WITH_REH_FINAL_FORM
    cSHEEN_WITH_JEEM_INITIAL_FORMeHAH_INITIAL_FORMeKHAH_INITIAL_FORMeMEEM_INITIAL_FORMcSEEN_WITH_HEH_INITIAL_FORM
    cSHEEN_WITH_HEH_INITIAL_FORMcTAH_WITH_MEEM_INITIAL_FORMcSEEN_WITH_JEEM_MEDIAL_FORMeHAH_MEDIAL_FORM
    eKHAH_MEDIAL_FORMcSHEEN_WITH_JEEM_MEDIAL_FORMeHAH_MEDIAL_FORMeKHAH_MEDIAL_FORMcTAH_WITH_MEEM_MEDIAL_FORM
    cZAH_WITH_MEEM_MEDIAL_FORMcALEF_WITH_FATHATAN_FINAL_FORMfISOLATED_FORMaORNATE_LEFT_PARENTHESISbRIGHT_PARENTHESIS
    aARABIC_LIGATURE_RAHIMAHU_ALLAAHcRADI_ALLAAHU_ANHeANHAAeANHUMeANHUMAAeANHUNNAcSALLALLAAHU_ALAYHI_WA-AALIH
    cALAYHI_AS-SALAAMcALAYHIM_AS-SALAAMcALAYHIMAA_AS-SALAAMcALAYHI_AS-SALAATU_WAS-SALAAMcQUDDISA_SIRRAH
    cSALLALLAHU_ALAYHI_WAAALIHEE_WA-SALLAMcALAYHAA_AS-SALAAMcTABAARAKA_WA-TAAALAAcRAHIMAHUM_ALLAAH
    cTEH_WITH_JEEM_WITH_MEEM_INITIAL_FORMeHAH_WITH_JEEM_FINAL_FORMhINITIAL_FORMgMEEM_INITIAL_FORM
    eKHAH_WITH_MEEM_INITIAL_FORMeMEEM_WITH_JEEM_INITIAL_FORMgHAH_INITIAL_FORMgKHAH_INITIAL_FORM
    cJEEM_WITH_MEEM_WITH_HAH_FINAL_FORMhINITIAL_FORMcHAH_WITH_MEEM_WITH_YEH_FINAL_FORMgALEF_MAKSURA_FINAL_FORM
    cSEEN_WITH_HAH_WITH_JEEM_INITIAL_FORMeJEEM_WITH_HAH_INITIAL_FORMgALEF_MAKSURA_FINAL_FORM
    eMEEM_WITH_HAH_FINAL_FORMhINITIAL_FORMgJEEM_INITIAL_FORMgMEEM_FINAL_FORMhINITIAL_FORM
    cSAD_WITH_HAH_WITH_HAH_FINAL_FORMhINITIAL_FORMeMEEM_WITH_MEEM_FINAL_FORMcSHEEN_WITH_HAH_WITH_MEEM_FINAL_FORM
    hINITIAL_FORMeJEEM_WITH_YEH_FINAL_FORMeMEEM_WITH_KHAH_FINAL_FORMhINITIAL_FORMgMEEM_FINAL_FORMhINITIAL_FORM
    cDAD_WITH_HAH_WITH_ALEF_MAKSURA_FINAL_FORMeKHAH_WITH_MEEM_FINAL_FORMhINITIAL_FORM
    cTAH_WITH_MEEM_WITH_HAH_FINAL_FORMhINITIAL_FORMgMEEM_INITIAL_FORMgYEH_FINAL_FORM
    cAIN_WITH_JEEM_WITH_MEEM_FINAL_FORMeMEEM_WITH_MEEM_FINAL_FORMhINITIAL_FORMgALEF_MAKSURA_FINAL_FORM
    cGHAIN_WITH_MEEM_WITH_MEEM_FINAL_FORMgYEH_FINAL_FORMgALEF_MAKSURA_FINAL_FORMcFEH_WITH_KHAH_WITH_MEEM_FINAL_FORM
    hINITIAL_FORMcQAF_WITH_MEEM_WITH_HAH_FINAL_FORMgMEEM_FINAL_FORMcLAM_WITH_HAH_WITH_MEEM_FINAL_FORMgYEH_FINAL_FORM
    gALEF_MAKSURA_FINAL_FORMeJEEM_WITH_JEEM_INITIAL_FORMhFINAL_FORMeKHAH_WITH_MEEM_FINAL_FORMhINITIAL_FORM
    eMEEM_WITH_HAH_FINAL_FORMhINITIAL_FORMcMEEM_WITH_HAH_WITH_JEEM_INITIAL_FORMgMEEM_INITIAL_FORMgYEH_FINAL_FORM
    eJEEM_WITH_HAH_INITIAL_FORMgMEEM_INITIAL_FORMeKHAH_WITH_JEEM_INITIAL_FORMgMEEM_INITIAL_FORM
    :FD92eJEEM_WITH_KHAH_INITIAL_FORMcHEH_WITH_MEEM_WITH_JEEM_INITIAL_FORMgMEEM_INITIAL_FORM
    cNOON_WITH_HAH_WITH_MEEM_INITIAL_FORMgALEF_MAKSURA_FINAL_FORMeJEEM_WITH_MEEM_FINAL_FORMhINITIAL_FORM
    gALEF_MAKSURA_FINAL_FORMeMEEM_WITH_YEH_FINAL_FORMgALEF_MAKSURA_FINAL_FORMcYEH_WITH_MEEM_WITH_MEEM_FINAL_FORM
    hINITIAL_FORMcBEH_WITH_KHAH_WITH_YEH_FINAL_FORMcTEH_WITH_JEEM_WITH_YEH_FINAL_FORMgALEF_MAKSURA_FINAL_FORM
    eKHAH_WITH_YEH_FINAL_FORMgALEF_MAKSURA_FINAL_FORMeMEEM_WITH_YEH_FINAL_FORMgALEF_MAKSURA_FINAL_FORM
    cJEEM_WITH_MEEM_WITH_YEH_FINAL_FORMeHAH_WITH_ALEF_MAKSURA_FINAL_FORMeMEEM_WITH_ALEF_MAKSURA_FINAL_FORM
    cSEEN_WITH_KHAH_WITH_ALEF_MAKSURA_FINAL_FORMcSAD_WITH_HAH_WITH_YEH_FINAL_FORMcSHEEN_WITH_HAH_WITH_YEH_FINAL_FORM
    cDAD_WITH_HAH_WITH_YEH_FINAL_FORMcLAM_WITH_JEEM_WITH_YEH_FINAL_FORMeMEEM_WITH_YEH_FINAL_FORM
    cYEH_WITH_HAH_WITH_YEH_FINAL_FORMeJEEM_WITH_YEH_FINAL_FORMeMEEM_WITH_YEH_FINAL_FORM
    cMEEM_WITH_MEEM_WITH_YEH_FINAL_FORMcQAF_WITH_MEEM_WITH_YEH_FINAL_FORMcNOON_WITH_HAH_WITH_YEH_FINAL_FORM
    cQAF_WITH_MEEM_WITH_HAH_INITIAL_FORMcLAM_WITH_HAH_WITH_MEEM_INITIAL_FORMcAIN_WITH_MEEM_WITH_YEH_FINAL_FORM
    cKAF_WITH_MEEM_WITH_YEH_FINAL_FORMcNOON_WITH_JEEM_WITH_HAH_INITIAL_FORMcMEEM_WITH_KHAH_WITH_YEH_FINAL_FORM
    cLAM_WITH_JEEM_WITH_MEEM_INITIAL_FORMcKAF_WITH_MEEM_WITH_MEEM_FINAL_FORMcLAM_WITH_JEEM_WITH_MEEM_FINAL_FORM
    cNOON_WITH_JEEM_WITH_HAH_FINAL_FORMcJEEM_WITH_HAH_WITH_YEH_FINAL_FORMcHAH_WITH_JEEM_WITH_YEH_FINAL_FORM
    cMEEM_WITH_JEEM_WITH_YEH_FINAL_FORMcFEH_WITH_MEEM_WITH_YEH_FINAL_FORMcBEH_WITH_HAH_WITH_YEH_FINAL_FORM
    cKAF_WITH_MEEM_WITH_MEEM_INITIAL_FORMcAIN_WITH_JEEM_WITH_MEEM_INITIAL_FORMcSAD_WITH_MEEM_WITH_MEEM_INITIAL_FORM
    cSEEN_WITH_KHAH_WITH_YEH_FINAL_FORMcNOON_WITH_JEEM_WITH_YEH_FINAL_FORM:FDCFcSALAAMUHU_ALAYNAA
    :FDF0cSALLA_USED_AS_KORANIC_STOP_SIGN_ISOLATED_FORMcQALA_USED_AS_KORANIC_STOP_SIGN_ISOLATED_FORM
    cALLAH_ISOLATED_FORMcAKBAR_ISOLATED_FORMcMOHAMMAD_ISOLATED_FORMcSALAM_ISOLATED_FORMcRASOUL_ISOLATED_FORM
    cALAYHE_ISOLATED_FORMcWASALLAM_ISOLATED_FORMcSALLA_ISOLATED_FORMcSALLALLAHOU_ALAYHE_WASALLAMcJALLAJALALOUHOU
    aRIAL_SIGNaARABIC_LIGATURE_BISMILLAH_AR-RAHMAN_AR-RAHEEMcSUBHAANAHU_WA_TAAALAAcAZZA_WA_JALLaVARIATION_SELECTOR-1
    bSELECTOR-2bSELECTOR-3bSELECTOR-4bSELECTOR-5bSELECTOR-6bSELECTOR-7bSELECTOR-8bSELECTOR-9bSELECTOR-10bSELECTOR-11
    bSELECTOR-12bSELECTOR-13bSELECTOR-14bSELECTOR-15bSELECTOR-16aPRESENTATION_FORM_FOR_VERTICAL_COMMA
    eIDEOGRAPHIC_COMMAfFULL_STOPeCOLONeSEMICOLONeEXCLAMATION_MARKeQUESTION_MARKeLEFT_WHITE_LENTICULAR_BRACKET
    eRIGHT_WHITE_LENTICULAR_BRAKCETeHORIZONTAL_ELLIPSIS:FE20aCOMBINING_LIGATURE_LEFT_HALFcRIGHT_HALF
    bDOUBLE_TILDE_LEFT_HALFdRIGHT_HALFbMACRON_LEFT_HALFcRIGHT_HALFbCONJOINING_MACRONbLIGATURE_LEFT_HALF_BELOW
    cRIGHT_HALF_BELOWbTILDE_LEFT_HALF_BELOWcRIGHT_HALF_BELOWbMACRON_LEFT_HALF_BELOWcRIGHT_HALF_BELOW
    bCONJOINING_MACRON_BELOWbCYRILLIC_TITLO_LEFT_HALFdRIGHT_HALFaPRESENTATION_FORM_FOR_VERTICAL_TWO_DOT_LEADER
    eEM_DASHeEN_DASHeLOW_LINEeWAVY_LOW_LINEeLEFT_PARENTHESISeRIGHT_PARENTHESISeLEFT_CURLY_BRACKET
    eRIGHT_CURLY_BRACKETeLEFT_TORTOISE_SHELL_BRACKETeRIGHT_TORTOISE_SHELL_BRACKETeLEFT_BLACK_LENTICULAR_BRACKET
    eRIGHT_BLACK_LENTICULAR_BRACKETeLEFT_DOUBLE_ANGLE_BRACKETeRIGHT_DOUBLE_ANGLE_BRACKETeLEFT_ANGLE_BRACKET
    eRIGHT_ANGLE_BRACKETeLEFT_CORNER_BRACKETeRIGHT_CORNER_BRACKETeLEFT_WHITE_CORNER_BRACKET
    eRIGHT_WHITE_CORNER_BRACKETaSESAME_DOTaWHITE_SESAME_DOTaPRESENTATION_FORM_FOR_VERTICAL_LEFT_SQUARE_BRACKET
    eRIGHT_SQUARE_BRACKETaDASHED_OVERLINEaCENTRELINE_OVERLINEaWAVY_OVERLINEaDOUBLE_WAVY_OVERLINEaDASHED_LOW_LINE
    aCENTRELINE_LOW_LINEaWAVY_LOW_LINEaSMALL_COMMAbIDEOGRAPHIC_COMMAbFULL_STOP:FE54bSEMICOLONbCOLONbQUESTION_MARK
    bEXCLAMATION_MARKbEM_DASHbLEFT_PARENTHESISbRIGHT_PARENTHESISbLEFT_CURLY_BRACKETbRIGHT_CURLY_BRACKET
    bLEFT_TORTOISE_SHELL_BRACKETbRIGHT_TORTOISE_SHELL_BRACKETbNUMBER_SIGNbAMPERSANDbASTERISKbPLUS_SIGNbHYPHEN-MINUS
    bLESS-THAN_SIGNbGREATER-THAN_SIGNbEQUALS_SIGN:FE68bREVERSE_SOLIDUSbDOLLAR_SIGNbPERCENT_SIGNbCOMMERCIAL_AT
    :FE70aARABIC_FATHATAN_ISOLATED_FORMbTATWEEL_WITH_FATHATAN_ABOVEbDAMMATAN_ISOLATED_FORMbTAIL_FRAGMENT
    bKASRATAN_ISOLATED_FORM:FE76bFATHA_ISOLATED_FORMcMEDIAL_FORMbDAMMA_ISOLATED_FORMcMEDIAL_FORMbKASRA_ISOLATED_FORM
    cMEDIAL_FORMbSHADDA_ISOLATED_FORMcMEDIAL_FORMbSUKUN_ISOLATED_FORMcMEDIAL_FORMbLETTER_HAMZA_ISOLATED_FORM
    cALEF_WITH_MADDA_ABOVE_ISOLATED_FORMgFINAL_FORMeHAMZA_ABOVE_ISOLATED_FORMgFINAL_FORM
    cWAW_WITH_HAMZA_ABOVE_ISOLATED_FORMgFINAL_FORMcALEF_WITH_HAMZA_BELOW_ISOLATED_FORMgFINAL_FORM
    cYEH_WITH_HAMZA_ABOVE_ISOLATED_FORMgFINAL_FORMgINITIAL_FORMgMEDIAL_FORMcALEF_ISOLATED_FORMdFINAL_FORM
    cBEH_ISOLATED_FORMdFINAL_FORMdINITIAL_FORMdMEDIAL_FORMcTEH_MARBUTA_ISOLATED_FORMeFINAL_FORMdISOLATED_FORM
    dFINAL_FORMdINITIAL_FORMdMEDIAL_FORMcTHEH_ISOLATED_FORMdFINAL_FORMdINITIAL_FORMdMEDIAL_FORMcJEEM_ISOLATED_FORM
    dFINAL_FORMdINITIAL_FORMdMEDIAL_FORMcHAH_ISOLATED_FORMdFINAL_FORMdINITIAL_FORMdMEDIAL_FORMcKHAH_ISOLATED_FORM
    dFINAL_FORMdINITIAL_FORMdMEDIAL_FORMcDAL_ISOLATED_FORMdFINAL_FORMcTHAL_ISOLATED_FORMdFINAL_FORM
    cREH_ISOLATED_FORMdFINAL_FORMcZAIN_ISOLATED_FORMdFINAL_FORMcSEEN_ISOLATED_FORMdFINAL_FORMdINITIAL_FORM
    dMEDIAL_FORMcSHEEN_ISOLATED_FORMdFINAL_FORMdINITIAL_FORMdMEDIAL_FORMcSAD_ISOLATED_FORMdFINAL_FORMdINITIAL_FORM
    dMEDIAL_FORMcDAD_ISOLATED_FORMdFINAL_FORMdINITIAL_FORMdMEDIAL_FORMcTAH_ISOLATED_FORMdFINAL_FORMdINITIAL_FORM
    dMEDIAL_FORMcZAH_ISOLATED_FORMdFINAL_FORMdINITIAL_FORMdMEDIAL_FORMcAIN_ISOLATED_FORMdFINAL_FORMdINITIAL_FORM
    dMEDIAL_FORMcGHAIN_ISOLATED_FORMdFINAL_FORMdINITIAL_FORMdMEDIAL_FORMcFEH_ISOLATED_FORMdFINAL_FORMdINITIAL_FORM
    dMEDIAL_FORMcQAF_ISOLATED_FORMdFINAL_FORMdINITIAL_FORMdMEDIAL_FORMcKAF_ISOLATED_FORMdFINAL_FORMdINITIAL_FORM
    dMEDIAL_FORMcLAM_ISOLATED_FORMdFINAL_FORMdINITIAL_FORMdMEDIAL_FORMcMEEM_ISOLATED_FORMdFINAL_FORMdINITIAL_FORM
    dMEDIAL_FORMcNOON_ISOLATED_FORMdFINAL_FORMdINITIAL_FORMdMEDIAL_FORMcHEH_ISOLATED_FORMdFINAL_FORMdINITIAL_FORM
    dMEDIAL_FORMcWAW_ISOLATED_FORMdFINAL_FORMcALEF_MAKSURA_ISOLATED_FORMeFINAL_FORMcYEH_ISOLATED_FORMdFINAL_FORM
    dINITIAL_FORMdMEDIAL_FORMbLIGATURE_LAM_WITH_ALEF_WITH_MADDA_ABOVE_ISOLATED_FORMiFINAL_FORM
    gHAMZA_ABOVE_ISOLATED_FORMiFINAL_FORMhBELOW_ISOLATED_FORMiFINAL_FORMfISOLATED_FORMfFINAL_FORM
    :FEFFaZERO_WIDTH_NO-BREAK_SPACE:FF01aFULLWIDTH_EXCLAMATION_MARKbQUOTATION_MARKbNUMBER_SIGNbDOLLAR_SIGN
    bPERCENT_SIGNbAMPERSANDbAPOSTROPHEbLEFT_PARENTHESISbRIGHT_PARENTHESISbASTERISKbPLUS_SIGNbCOMMAbHYPHEN-MINUS
    bFULL_STOPbSOLIDUSbDIGIT_ZEROcONEcTWOcTHREEcFOURcFIVEcSIXcSEVENcEIGHTcNINEbCOLONbSEMICOLONbLESS-THAN_SIGN
    bEQUALS_SIGNbGREATER-THAN_SIGNbQUESTION_MARKbCOMMERCIAL_ATbLATIN_CAPITAL_LETTER_AeBeCeDeEeFeGeHeIeJeKeLeMeNeOeP
    eQeReSeTeUeVeWeXeYeZbLEFT_SQUARE_BRACKETbREVERSE_SOLIDUSbRIGHT_SQUARE_BRACKETbCIRCUMFLEX_ACCENTbLOW_LINE
    bGRAVE_ACCENTbLATIN_SMALL_LETTER_AeBeCeDeEeFeGeHeIeJeKeLeMeNeOePeQeReSeTeUeVeWeXeYeZbLEFT_CURLY_BRACKET
    bVERTICAL_LINEbRIGHT_CURLY_BRACKETbTILDEbLEFT_WHITE_PARENTHESISbRIGHT_WHITE_PARENTHESIS
    aHALFWIDTH_IDEOGRAPHIC_FULL_STOPbLEFT_CORNER_BRACKETbRIGHT_CORNER_BRACKETbIDEOGRAPHIC_COMMAbKATAKANA_MIDDLE_DOT
    cLETTER_WOdSMALL_AeIeUeEeOeYAeYUeYOeTUbKATAKANA-HIRAGANA_PROLONGED_SOUND_MARKbKATAKANA_LETTER_AdIdUdEdOdKAdKIdKU
    dKEdKOdSAdSIdSUdSEdSOdTAdTIdTUdTEdTOdNAdNIdNUdNEdNOdHAdHIdHUdHEdHOdMAdMIdMUdMEdMOdYAdYUdYOdRAdRIdRUdREdROdWAdN
    cVOICED_SOUND_MARKcSEMI-VOICED_SOUND_MARKbHANGUL_FILLERcLETTER_KIYEOKdSSANGKIYEOKdKIYEOK-SIOSdNIEUNdNIEUN-CIEUC
    dNIEUN-HIEUHdTIKEUTdSSANGTIKEUTdRIEULdRIEUL-KIYEOKdRIEUL-MIEUMdRIEUL-PIEUPdRIEUL-SIOSdRIEUL-THIEUTH
    dRIEUL-PHIEUPHdRIEUL-HIEUHdMIEUMdPIEUPdSSANGPIEUPdPIEUP-SIOSdSIOSdSSANGSIOSdIEUNGdCIEUCdSSANGCIEUCdCHIEUCH
    dKHIEUKHdTHIEUTHdPHIEUPHdHIEUH:FFC2dAdAEdYAdYAEdEOdE:FFCAdYEOdYEdOdWAdWAEdOE:FFD2dYOdUdWEOdWEdWIdYU:FFDAdEUdYIdI
    :FFE0aFULLWIDTH_CENT_SIGNbPOUND_SIGNbNOT_SIGNbMACRONbBROKEN_BARbYEN_SIGNbWON_SIGN
    :FFE8aHALFWIDTH_FORMS_LIGHT_VERTICALbLEFTWARDS_ARROWbUPWARDS_ARROWbRIGHTWARDS_ARROWbDOWNWARDS_ARROWbBLACK_SQUARE
    bWHITE_CIRCLE:FFF9aINTERLINEAR_ANNOTATION_ANCHORcSEPARATORcTERMINATORaOBJECT_REPLACEMENT_CHARACTER
    aREPLACEMENT_CHARACTER"

end NullContract.CharName
